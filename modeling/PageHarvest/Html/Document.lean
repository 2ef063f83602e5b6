import PageHarvest.Html.Node
import PageHarvest.Html.Token

/-!
Building a document from tokens. Tags that are left out are implied, a start tag closes the elements
that cannot hold it, and an end tag closes what is open inside its element unless something stronger
stands between.
-/
namespace PageHarvest.Html

/-- Open elements that a start tag closes, by the tag that closes them. -/
def closedBy : List (List String × List String) := [
  (["form"], ["form", "p", "hr", "h1", "h2", "h3", "h4", "h5", "h6", "dl", "ul", "ol", "menu", "dir",
    "address", "pre", "listing", "xmp", "head"]),
  (["head", "title", "caption"], ["p"]),
  (["body", "frameset"], ["head", "style", "link", "title", "p"]),
  (["li"], ["p", "h1", "h2", "h3", "h4", "h5", "h6", "dl", "address", "pre", "listing", "xmp", "head",
    "li"]),
  (["hr", "h1", "h2", "h3", "h4", "h5", "h6", "dir", "listing", "xmp", "blockquote", "div", "ol"],
    ["p", "head"]),
  (["address", "pre", "menu"], ["p", "head", "ul"]),
  (["dl"], ["p", "dt", "menu", "dir", "address", "pre", "listing", "xmp", "head"]),
  (["dt"], ["p", "menu", "dir", "address", "pre", "listing", "xmp", "head", "dd"]),
  (["dd"], ["p", "menu", "dir", "address", "pre", "listing", "xmp", "head", "dt"]),
  (["ul"], ["p", "head", "menu", "dir", "address", "pre", "listing", "xmp"]),
  (["p"], ["p", "head", "h1", "h2", "h3", "h4", "h5", "h6", "tt", "i", "b", "u", "s", "strike", "big",
    "small"]),
  (["noscript"], ["script"]),
  (["center"], ["font", "b", "i", "p", "head"]),
  (["a"], ["a", "head"]),
  (["colgroup"], ["caption", "colgroup", "col", "p"]),
  (["col"], ["caption", "col", "p"]),
  (["table"], ["p", "head", "h1", "h2", "h3", "h4", "h5", "h6", "pre", "listing", "xmp", "a"]),
  (["th", "td"], ["th", "td", "p", "span", "font", "a", "b", "u"]),
  (["tr"], ["th", "td", "tr", "caption", "col", "colgroup", "p"]),
  (["thead"], ["caption", "col", "colgroup"]),
  (["tfoot", "tbody"], ["th", "td", "tr", "caption", "col", "colgroup", "thead", "tfoot", "tbody",
    "p"]),
  (["optgroup", "option"], ["option"]),
  (["fieldset"], ["legend", "p", "head", "h1", "h2", "h3", "h4", "h5", "h6", "pre", "listing", "xmp",
    "a"]),
  (["abbr", "acronym", "b", "bdo", "big", "br", "cite", "code", "dfn", "em", "font", "i", "iframe",
    "img", "kbd", "map", "q", "s", "samp", "small", "span", "strike", "strong", "sub", "sup", "tt",
    "u", "var"], ["head"])]

/-- Whether the start of `new` closes an open `old`. -/
def closes (new old : String) : Bool :=
  closedBy.any fun e => e.1.contains new && e.2.contains old

/-- Elements without content. -/
def emptyNames : List String := [
  "area", "base", "basefont", "br", "col", "frame", "hr", "img", "input", "isindex", "link", "meta",
  "param"]

/-- How strong an element is against end tags of others. -/
def strength (tag : String) : Nat :=
  match tag with
  | "div" => 150
  | "td" | "th" => 160
  | "tr" => 170
  | "thead" | "tbody" | "tfoot" => 180
  | "table" => 190
  | "head" | "body" => 200
  | "html" => 220
  | _ => 100

/-- An open element with its children so far, last first. -/
structure Frame where
  id : Nat
  tag : String
  attrs : Attrs
  children : List Node

def Frame.close (f : Frame) : Node :=
  .element f.id f.tag f.attrs f.children.reverse

/-- A document being built. The open elements are listed innermost first; below them lies the
document itself. -/
structure Builder where
  stack : List Frame
  base : Frame
  /-- Text that has not been put into the tree, last character first. -/
  pending : List Char
  nextId : Nat
  sawHead : Bool
  sawBody : Bool
  /-- How many misplaced start tags still await their end tags. -/
  misplacedOpen : Nat

namespace Builder

/-- The tag of the innermost open element. -/
def current? (b : Builder) : Option String :=
  b.stack.head?.map (·.tag)

def isOpen (b : Builder) (tag : String) : Bool :=
  b.stack.any fun f => f.tag == tag

def add (b : Builder) (n : Node) : Builder :=
  match b.stack with
  | f :: rest => { b with stack := { f with children := n :: f.children } :: rest }
  | [] => { b with base := { b.base with children := n :: b.base.children } }

/-- White space alone is one line feed or one blank, except inside preformatted elements. -/
def tidied (b : Builder) (cs : List Char) : List Char :=
  if (cs.all isSpace) && !(b.isOpen "pre" || b.isOpen "textarea") then
    if cs.contains '\n' then ['\n'] else [' ']
  else cs

/-- The kind of text that the open elements make: that of the innermost one with a kind of its own. -/
def textKind (b : Builder) : TextKind :=
  ((b.stack.map fun f => textKindOf f.tag).find? (· != .plain)).getD .plain

/-- Puts the pending text into the tree. -/
def flush (b : Builder) : Builder :=
  if b.pending.isEmpty then b
  else
    let cs := b.tidied b.pending.reverse
    { b.add (.text b.textKind (String.ofList cs)) with pending := [] }

def push (b : Builder) (tag : String) (attrs : List (String × String)) : Builder :=
  let b := b.flush
  { b with
    stack := ⟨b.nextId, tag, attrsFor tag attrs, []⟩ :: b.stack
    nextId := b.nextId + 1
    sawHead := b.sawHead || tag == "head"
    sawBody := b.sawBody || tag == "body" }

def pop (b : Builder) : Builder :=
  let b := b.flush
  match b.stack with
  | f :: rest => { b with stack := rest }.add f.close
  | [] => b

/-- Closes open elements from the innermost one out, as long as they are of a class. -/
def popWhile (p : String → Bool) : Nat → Builder → Builder
  | 0, b => b
  | n + 1, b =>
    match b.current? with
    | some tag => if p tag then popWhile p n b.pop else b
    | none => b

def autoClose (new : String) (b : Builder) : Builder :=
  popWhile (closes new) b.stack.length b

/-- Elements that belong into the head. -/
def headNames : List String := ["script", "style", "meta", "link", "title", "base"]

/-- Opens what the start of `new` implies. -/
def imply (new : String) (b : Builder) : Builder :=
  if new == "html" then b
  else
    let b := if b.stack.isEmpty then b.push "html" [] else b
    if new == "body" || new == "head" then b
    else if b.stack.length ≤ 1 && headNames.contains new then
      if b.sawHead then b else b.push "head" []
    else if ["noframes", "frame", "frameset"].contains new then b
    else if b.sawBody || b.isOpen "body" || b.isOpen "head" then b
    else b.push "body" []

/-- Whether a start tag stands where its element cannot be. -/
def misplaced (b : Builder) (tag : String) : Bool :=
  (tag == "html" && !b.stack.isEmpty) || (tag == "head" && b.stack.length != 1) ||
    (tag == "body" && b.isOpen "body")

def startTag (b : Builder) (tag : String) (attrs : List (String × String)) (selfClosing : Bool) :
    Builder :=
  let b := (b.autoClose tag).imply tag
  if b.misplaced tag then { b with misplacedOpen := b.misplacedOpen + 1 }
  else
    let b := b.push tag attrs
    if selfClosing || emptyNames.contains tag then b.pop else b

/-- The open elements inside the innermost one of a tag; none when there is no such element. -/
def inside? (tag : String) : List Frame → Option (List String)
  | [] => none
  | f :: rest => if f.tag == tag then some [] else (inside? tag rest).map (f.tag :: ·)

/-- Closes the innermost element of a tag. After misplaced start tags, as many end tags of their kinds
are left out of account. -/
def endTag (b : Builder) (tag : String) : Builder :=
  if 0 < b.misplacedOpen && ["html", "head", "body"].contains tag then
    { b with misplacedOpen := b.misplacedOpen - 1 }
  else match inside? tag b.stack with
    | none => b
    | some inner =>
      if inner.any fun t => strength tag < strength t then b
      else (popWhile (· != tag) inner.length b).pop

/-- Adds text. Text beyond white space needs a body. -/
def text (b : Builder) (cs : List Char) : Builder :=
  let outside := match b.current? with
    | none => true
    | some tag => tag == "html" || tag == "head"
  if outside then
    let lead := cs.takeWhile isSpace
    let rest := cs.dropWhile isSpace
    let b := { b with pending := lead.reverse ++ b.pending }
    if rest.isEmpty then b
    else
      let b := if b.current? == some "head" then b.autoClose "p" else b
      let b := b.imply "p"
      { b with pending := rest.reverse ++ b.pending }
  else { b with pending := cs.reverse ++ b.pending }

def comment (b : Builder) (cs : List Char) : Builder :=
  b.flush.add (.text .comment (String.ofList cs))

def take (b : Builder) : Token → Builder
  | .startTag name attrs selfClosing => b.startTag name attrs selfClosing
  | .endTag name => b.endTag name
  | .text cs => b.text cs
  | .comment cs => b.comment cs
  | .doctype => b.flush

def finish (b : Builder) : Node :=
  (popWhile (fun _ => true) b.stack.length b).flush.base.close

end Builder

/-- White space before the first tag or text is no part of a document. -/
def dropLead : List Token → List Token
  | .text cs :: rest =>
    let cs := cs.dropWhile isSpace
    if cs.isEmpty then dropLead rest else .text cs :: rest
  | .comment cs :: rest => .comment cs :: dropLead rest
  | .doctype :: rest => .doctype :: dropLead rest
  | ts => ts

/-- The document of a markup text, its elements numbered from `firstId`, and the next free number. -/
def parse (markup : String) (firstId : Nat) : Node × Nat :=
  let cs := markup.toList
  let body := if cs.head? == some '\ufeff' then String.ofList (cs.drop 1) else markup
  let b : Builder := ⟨[], ⟨firstId, documentTag, [], []⟩, [], firstId + 1, false, false, 0⟩
  let b := (dropLead (tokens body)).foldl Builder.take b
  (b.finish, b.nextId)

end PageHarvest.Html

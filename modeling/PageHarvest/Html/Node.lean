import PageHarvest.Text.Blank

/-!
Documents as trees. Every element has a number of its own, by which handles name it; a document is
the element that has all others inside.
-/
namespace PageHarvest.Html

/-- What kind of text a text node holds. Elements show only the kinds that are theirs. -/
inductive TextKind where
  | plain
  | script
  | style
  | template
  | rubyText
  | rubyParenthesis
  | comment
  deriving Repr, DecidableEq

/-- The value of an attribute: a text, or the words of an attribute that lists words. -/
inductive AttrValue where
  | text (s : String)
  | words (ws : List String)
  deriving Repr, DecidableEq

/-- The value as one text, words joined by single blanks. -/
def AttrValue.joined : AttrValue → String
  | text s => s
  | words ws => " ".intercalate ws

abbrev Attrs := List (String × AttrValue)

inductive Node where
  | element (id : Nat) (tag : String) (attrs : Attrs) (children : List Node)
  | text (kind : TextKind) (s : String)
  deriving Inhabited

/-- The tag of a document. -/
def documentTag : String := "[document]"

/-- The tag of an inner frame, whose content is a document of its own. -/
def frameTag : String := "iframe"

namespace Node

def id? : Node → Option Nat
  | element id _ _ _ => some id
  | text _ _ => none

def tag? : Node → Option String
  | element _ tag _ _ => some tag
  | text _ _ => none

def isElement (n : Node) : Bool := n.tag?.isSome

def children : Node → List Node
  | element _ _ _ cs => cs
  | text _ _ => []

def attrs : Node → Attrs
  | element _ _ as _ => as
  | text _ _ => []

/-- The value of an attribute, its name spelled exactly. -/
def attr? (n : Node) (name : String) : Option AttrValue :=
  (n.attrs.find? fun a => a.1 == name).map (·.2)

end Node

/-- Text kinds by the element that holds them. -/
def textKindOf (tag : String) : TextKind :=
  match tag with
  | "script" => .script
  | "style" => .style
  | "template" => .template
  | "rt" => .rubyText
  | "rp" => .rubyParenthesis
  | _ => .plain

mutual

/-- The texts of one kind inside a node, in order. -/
def Node.textsOf (kind : TextKind) : Node → List String
  | .element _ _ _ children => textsAmong kind children
  | .text k s => if k == kind then [s] else []

def textsAmong (kind : TextKind) : List Node → List String
  | [] => []
  | n :: rest => n.textsOf kind ++ textsAmong kind rest

end

def Node.shownText (n : Node) : String :=
  String.join (n.textsOf (textKindOf (n.tag?.getD "")))

mutual

/-- All texts inside a node but comments, in order, with or without those of inner frames. -/
def Node.allTexts (frames : Bool) : Node → List String
  | .element _ tag _ children =>
    if tag == frameTag && !frames then [] else allTextsAmong frames children
  | .text k s => if k == .comment then [] else [s]

def allTextsAmong (frames : Bool) : List Node → List String
  | [] => []
  | n :: rest => n.allTexts frames ++ allTextsAmong frames rest

end

/-- The texts directly inside an element but comments. -/
def Node.ownTexts (n : Node) : List String :=
  n.children.filterMap fun c =>
    match c with
    | .text k s => if k == .comment then none else some s
    | .element _ _ _ _ => none

/-- Attributes that list words, by element; those without an element list words everywhere. -/
def wordListAttrs : List (Option String × List String) := [
  (none, ["class", "accesskey", "dropzone"]), (some "a", ["rel", "rev"]),
  (some "link", ["rel", "rev"]), (some "td", ["headers"]), (some "th", ["headers"]),
  (some "form", ["accept-charset"]), (some "object", ["archive"]), (some "area", ["rel"]),
  (some "icon", ["sizes"]), (some "iframe", ["sandbox"]), (some "output", ["for"])]

/-- Whether an attribute of an element lists words. -/
def listsWords (tag name : String) : Bool :=
  wordListAttrs.any fun e => e.2.contains name && (e.1 == none || e.1 == some tag)

/-- Splits text at blanks; `word` is the word being read, last character first. -/
def wordsFrom (word : List Char) : List Char → List String
  | [] => if word.isEmpty then [] else [String.ofList word.reverse]
  | c :: rest =>
    if Text.isBlank c then
      if word.isEmpty then wordsFrom [] rest else String.ofList word.reverse :: wordsFrom [] rest
    else wordsFrom (c :: word) rest

def attrsFor (tag : String) (attrs : List (String × String)) : Attrs :=
  attrs.map fun (name, v) =>
    (name, if listsWords tag name then .words (wordsFrom [] v.toList) else .text v)

end PageHarvest.Html

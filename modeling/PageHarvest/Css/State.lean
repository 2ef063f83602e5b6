import PageHarvest.Css.Bounds
import PageHarvest.Css.Language
import PageHarvest.Css.Selector
import PageHarvest.Html.Place

/-!
States of elements: how their values stand to their bounds, what their form or group holds besides them,
and the language and the direction that they have from the elements around them. An inner frame ends
what is around an element.
-/
namespace PageHarvest.Css
open Html (Place Node)
open Text (Direction)

/-- The value of an attribute as one text; case does not matter in its name. -/
def attrText? (n : Node) (name : String) : Option String :=
  (n.attrs.find? fun a => Text.asciiLower a.1 == Text.asciiLower name).map (·.2.joined)

/-- The value of an attribute where case does not matter in it. -/
def attrWord? (n : Node) (name : String) : Option String :=
  (attrText? n name).map Text.asciiLower

/-- The first element of a document or of an inner frame's content, or what is at the top of all. -/
def isTop (p : Place) : Bool :=
  match p.parent? with
  | none => p.tag != Html.documentTag
  | some parent => parent.isFrame ||
    (parent.parent?.isNone && parent.tag == Html.documentTag && !p.preceding.any Place.isElement)

/-! Bounds -/

/-- Whether a value is beyond its bounds, or within them. Without bounds it is neither. -/
def isBounded (beyond : Bool) (n : Node) : Bool :=
  let type := (attrWord? n "type").getD ""
  let read (name : String) : Option InputValue := (attrText? n name).bind (inputValue? type)
  let least := read "min"
  let most := read "max"
  (least.isSome || most.isSome) && (read "value").any (isBeyond type least most) == beyond

/-! Forms -/

def form? (p : Place) : Option Place :=
  p.frameAncestors.find? (·.tag == "form")

/-- What a group of choices is in: a form, or else all of a frame. -/
def group? (p : Place) : Option Place :=
  (form? p).or p.frameAncestors.getLast?

def submits (p : Place) : Bool :=
  ["button", "input"].contains p.tag && attrWord? p.node "type" == some "submit"

def isFirstSubmit (p : Place) : Bool :=
  (form? p).any fun form =>
    ((form.frameDescendants.takeWhile (·.tag != "form")).find? submits).any (·.id? == p.id?)

/-- Whether `q` is a choice that is made in the same group as `p` is in, which is `group`. -/
def isChosen (group p q : Place) : Bool :=
  q.tag == "input" && attrWord? q.node "type" == some "radio" && (attrText? q.node "checked").isSome &&
    attrText? q.node "name" == attrText? p.node "name" && (group? q).any (·.id? == group.id?)

def isUnchosen (p : Place) : Bool :=
  (group? p).all fun group =>
    group.frameDescendants.all fun q => q.id? == p.id? || !isChosen group p q

/-! Languages -/

/-- The language that is written at an element or nearest above it. The empty one stands only where no
other is written. -/
def writtenLanguage? (p : Place) : Option String :=
  let written := (p :: p.frameAncestors).filterMap fun q => attrText? q.node "lang"
  (written.find? (!·.isEmpty)).or written.head?

def firstChild? (tag : String) (p : Place) : Option Place :=
  p.children.find? (·.tag == tag)

/-- The language that an element of a head names. -/
def namedLanguage? (p : Place) : Option String :=
  if p.tag == "meta" && attrWord? p.node "http-equiv" == some "content-language" then
    (attrText? p.node "content").filter (!·.isEmpty)
  else none

/-- The language that the head of a document names for all of it. -/
def headLanguage? (p : Place) : Option String := do
  let top ← (p :: p.frameAncestors).getLast?
  let html ← firstChild? "html" top
  let head ← firstChild? "head" html
  head.children.findSome? namedLanguage?

def speaksAny (p : Place) (ranges : List String) : Bool :=
  ((writtenLanguage? p).or (headLanguage? p)).any fun language => ranges.any (coversLanguage · language)

/-! Directions -/

/-- The direction that is written at an element, which may be that of its text. -/
def writtenDirection? (n : Node) : Option (Option Direction) :=
  match attrWord? n "dir" with
  | some "ltr" => some (some .leftToRight)
  | some "rtl" => some (some .rightToLeft)
  | some "auto" => some none
  | _ => none

/-- Whether an element keeps its text apart from that around it. -/
def keepsApart (n : Node) : Bool :=
  (n.tag?.any ["bdi", "script", "style", "textarea", Html.frameTag].contains) ||
    (writtenDirection? n).isSome

mutual

/-- The direction of the first text inside a node that has one. -/
def textDirection? : Node → Option Direction
  | .element id tag attrs children =>
    if keepsApart (.element id tag attrs []) then none else textDirectionAmong? children
  | .text kind s => if kind == .comment then none else Text.firstDirection? s

def textDirectionAmong? : List Node → Option Direction
  | [] => none
  | n :: rest => (textDirection? n).or (textDirectionAmong? rest)

end

/-- What stands in a field for text, if the element is one. -/
def fieldText? (n : Node) : Option String :=
  match n.tag? with
  | some "textarea" => some (String.join n.ownTexts)
  | some "input" =>
    if ["text", "search", "tel", "url", "email"].contains ((attrWord? n "type").getD "") then
      some ((attrText? n "value").getD "")
    else none
  | _ => none

/-- The direction that an element has of itself. One that is told by the text is none without it; a top
element then runs from left to right. -/
def ownDirection? (p : Place) : Option Direction :=
  let top := if isTop p then some .leftToRight else none
  match writtenDirection? p.node with
  | some (some direction) => some direction
  | some none =>
    match fieldText? p.node with
    | some text => if text.isEmpty then top else some ((Text.firstDirection? text).getD .leftToRight)
    | none => (textDirectionAmong? p.node.children).or top
  | none =>
    if p.tag == "input" && attrWord? p.node "type" == some "tel" then some .leftToRight
    else if p.tag == "bdi" then top.or (textDirectionAmong? p.node.children)
    else top

def inheritedDirection? (p : Place) : Option Direction :=
  (p :: p.frameAncestors).findSome? ownDirection?

/-- Whether the element at a place is in a state. -/
def State.holds (s : State) (p : Place) : Bool :=
  match s with
  | known => !p.tag.contains '-' || p.tag.contains ':'
  | bounded beyond => isBounded beyond p.node
  | firstSubmit => isFirstSubmit p
  | unchosen => isUnchosen p
  | speaks ranges => speaksAny p ranges
  | runs direction => inheritedDirection? p == some direction

end PageHarvest.Css

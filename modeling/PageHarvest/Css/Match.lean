import PageHarvest.Css.Parser
import PageHarvest.Css.State

/-!
Which elements of a document a selector picks. The document itself counts as a parent and ancestor
of its elements, but it is never picked.
-/
namespace PageHarvest.Css

open Html (Place Node AttrValue)

/-- Whether `v` is `w`, up to one line feed at its end. -/
def isWhole (w v : List Char) : Bool :=
  v == w || v == w ++ ['\n']

/-- Whether `w` stands at the start of `v` or of a later part of it. -/
def isInside (w : List Char) : List Char → Bool
  | [] => w.isEmpty
  | c :: rest => w.isPrefixOf (c :: rest) || isInside w rest

/-- Words between single white spaces; `word` is the one being read, last character first. -/
def wordsBetween (word : List Char) : List Char → List (List Char)
  | [] => [word.reverse]
  | c :: rest =>
    if isWhite c then word.reverse :: wordsBetween [] rest else wordsBetween (c :: word) rest

def ValueTest.asks (t : ValueTest) (w v : List Char) : Bool :=
  match t with
  | present => true
  | equals => isWhole w v
  | hasWord => !w.isEmpty && !w.any isWhite && (wordsBetween [] v).contains w
  | dashed => isWhole w v || (w ++ ['-']).isPrefixOf v
  | startsWith => w.isPrefixOf v
  | endsWith => w.isSuffixOf v || (w ++ ['\n']).isSuffixOf v
  | contains => isInside w v

def AttrTest.passes (t : AttrTest) (n : Node) : Bool :=
  match attrText? n t.name with
  | none => false
  | some v =>
    if t.ignoreCase then t.ask.asks (t.value.toList.map Text.folded) (v.toList.map Text.folded)
    else t.ask.asks t.value.toList v.toList

def hasWord (n : Node) (word : String) : Bool :=
  match n.attrs.find? fun a => Text.asciiLower a.1 == "class" with
  | some (_, .words ws) => ws.contains word
  | some (_, .text s) => (wordsBetween [] s.toList).contains word.toList
  | none => false

/-- Whether a node leaves a root alone: it is a comment or white space. -/
def isQuiet : Node → Bool
  | .element _ _ _ _ => false
  | .text .comment _ => true
  | .text _ s => Text.isBlankText s

/-- Whether a place is that of the root: the only thing in a document or in an inner frame besides white
space. -/
def isRoot (p : Place) : Bool :=
  isTop p && p.preceding.all (isQuiet ·.node) && p.following.all (isQuiet ·.node)

/-- Whether an element holds nothing but white space and comments. The content of an inner frame is
not its own. -/
def isEmpty (n : Node) : Bool :=
  n.tag? == some Html.frameTag || n.children.all fun c =>
    match c with
    | .element _ _ _ _ => false
    | .text .comment _ => true
    | .text _ s => s.toList.all isWhite

/-- Whether texts that are given occur in what an element tells. The content of an inner frame is not
told. -/
def tellsAny (n : Node) (own : Bool) (texts : List String) : Bool :=
  let said :=
    if !own then [String.join (n.allTexts false)]
    else if n.tag? == some Html.frameTag then []
    else n.ownTexts
  texts.any fun t => said.any fun s => isInside t.toList s.toList

/-- Whether a position, counted from one, is among those that a formula gives. Formulas are tried
only where they can still come into a range that ends at `last`, the count of nodes less one. -/
def Positions.holds (p : Positions) (last position : Nat) : Bool :=
  let i : Int := position
  if p.single then i == p.offset
  else if p.step == 0 then i == p.offset
  else
    let term := (i - p.offset) % p.step == 0 && 0 ≤ (i - p.offset) / p.step
    if 0 < p.step then
      term && p.offset ≤ last && !(p.offset < 0 && p.offset % p.step == 0)
    else
      let lowest := (p.offset - 1) % p.step + 1
      term && 1 ≤ p.offset && lowest ≤ last

/-- Places of parents, siblings or descendants that a combinator leads to. -/
def reached (c : Combinator) (p : Place) : List Place :=
  match c with
  | .descendant => p.descendants
  | .frameDescendant => p.frameDescendants
  | .child => p.children.filter Place.isElement
  | .adjacent => (p.following.filter Place.isElement).take 1
  | .later => p.following.filter Place.isElement

/-- Places from which a combinator leads to a place. -/
def reachedFrom (c : Combinator) (p : Place) : List Place :=
  match c with
  | .descendant => p.ancestors
  | .frameDescendant => p.frameAncestors
  | .child => p.parent?.toList
  | .adjacent => (p.preceding.filter Place.isElement).take 1
  | .later => p.preceding.filter Place.isElement

/-- The siblings that a position is counted through: those before, or those after. -/
def counted (p : Place) (fromEnd : Bool) : List Place :=
  (if fromEnd then p.following else p.preceding).filter Place.isElement

/-- The number of nodes beside a place, less one. -/
def lastIndex (p : Place) : Nat :=
  match p.parent? with
  | some parent => parent.node.children.length - 1
  | none => 0

mutual

/-- Whether the element at a place passes a test; `scope` is the number of the scope element. -/
def Test.passes (scope : Option Nat) (t : Test) (p : Place) : Bool :=
  match t with
  | .tag name => p.tag == name
  | .id value => attrText? p.node "id" == some value
  | .word value => hasWord p.node value
  | .attr a => a.passes p.node
  | .root => isRoot p
  | .scope => p.id?.isSome && p.id? == scope
  | .empty => isEmpty p.node
  | .textless =>
    let said := String.join (p.node.allTexts true)
    said == "" || said == "\n"
  | .never => false
  | .state s => s.holds p
  | .nth positions among =>
    let counts (q : Place) : Bool :=
      (among.isEmpty || anyPasses scope among q) && (!positions.ofType || q.tag == p.tag)
    counts p && positions.holds (lastIndex p) (((counted p positions.fromEnd).filter counts).length + 1)
  | .oneOf alternatives => anyPasses scope alternatives p
  | .noneOf alternatives => !anyPasses scope alternatives p
  | .tells own texts => tellsAny p.node own texts
  | .follows c tests => (reachedFrom c p).any fun q => allPass scope tests q
  | .leads c tests => (reached c p).any fun q => allPass scope tests q

def allPass (scope : Option Nat) (tests : List Test) (p : Place) : Bool :=
  match tests with
  | [] => true
  | t :: rest => t.passes scope p && allPass scope rest p

def anyPasses (scope : Option Nat) (alternatives : List (List Test)) (p : Place) : Bool :=
  match alternatives with
  | [] => false
  | a :: rest => allPass scope a p || anyPasses scope rest p

end

/-- The number of the element that a search below a place has as its scope: the element there, or the
first element of a document. -/
def scopeOf (p : Place) : Option Nat :=
  if p.tag == Html.documentTag then ((p.children.filter Place.isElement).head?).bind Place.id?
  else p.id?

/-- The elements below a place that a selector picks, in document order. -/
def select (s : Selector) (p : Place) : List Place :=
  p.descendants.filter fun q => anyPasses (scopeOf p) s q

/-- How selectors are read, and what they pick below a place. -/
abbrev Engine := String → Except Failure (Place → List Place)

def engine : Engine := fun text =>
  (read text).map select

end PageHarvest.Css

import PageHarvest.Html.Node

/-!
Places of nodes in a tree: a node together with its siblings and the place of its parent, so that
one can go up and sideways as well as down.
-/
namespace PageHarvest.Html

/-- A node and where it stands. Siblings before it are listed nearest first. -/
inductive Place where
  | top (node : Node)
  | inside (parent : Place) (before : List Node) (node : Node) (after : List Node)

namespace Place

def node : Place → Node
  | top n => n
  | inside _ _ n _ => n

def parent? : Place → Option Place
  | top _ => none
  | inside p _ _ _ => some p

def id? (p : Place) : Option Nat := p.node.id?

def tag (p : Place) : String := p.node.tag?.getD ""

def isElement (p : Place) : Bool := p.node.isElement

/-- Places of parent, grandparent and so on. -/
def ancestors : Place → List Place
  | top _ => []
  | inside p _ _ _ => p :: p.ancestors

def isFrame (p : Place) : Bool := p.tag == frameTag

/-- The ancestors in the same frame. -/
def frameAncestors (p : Place) : List Place :=
  p.ancestors.takeWhile fun q => !q.isFrame

def root : Place → Place
  | top n => top n
  | inside p _ _ _ => p.root

/-- Places of the nodes of a list that follow one another under a parent. -/
def rightward (parent : Place) (before : List Node) : List Node → List Place
  | [] => []
  | n :: after => inside parent before n after :: rightward parent (n :: before) after

/-- Places of the nodes before a node, nearest first. -/
def leftward (parent : Place) (after : List Node) : List Node → List Place
  | [] => []
  | n :: before => inside parent before n after :: leftward parent (n :: after) before

/-- Places of the siblings after a place, nearest first. -/
def following : Place → List Place
  | top _ => []
  | inside p before n after => rightward p (n :: before) after

/-- Places of the siblings before a place, nearest first. -/
def preceding : Place → List Place
  | top _ => []
  | inside p before n after => leftward p (n :: after) before

def children (p : Place) : List Place :=
  rightward p [] p.node.children

mutual

/-- Places of everything below a node whose own place is given, in document order. -/
def belowNode (self : Place) : Node → List Place
  | .element _ _ _ children => belowList self [] children
  | .text _ _ => []

def belowList (parent : Place) (before : List Node) : List Node → List Place
  | [] => []
  | n :: after =>
    let here := inside parent before n after
    here :: belowNode here n ++ belowList parent (n :: before) after

end

/-- Places of the elements below a place, in document order. -/
def descendants (p : Place) : List Place :=
  (belowNode p p.node).filter isElement

/-- Places of the elements below a place that are in its frame, in document order. -/
def frameDescendants (p : Place) : List Place :=
  p.descendants.filter fun q =>
    (q.ancestors.take (q.ancestors.length - p.ancestors.length)).all fun r => !r.isFrame

/-- The place of an element by its number, at or below a place. -/
def find? (p : Place) (id : Nat) : Option Place :=
  (p :: p.descendants).find? fun q => q.id? == some id

end Place

mutual

/-- A tree with a node added at the end of an element. -/
def Node.appendTo (id : Nat) (new : Node) : Node → Node
  | .element i tag attrs children =>
    let children := appendAmong id new children
    .element i tag attrs (if i == id then children ++ [new] else children)
  | .text k s => .text k s

def appendAmong (id : Nat) (new : Node) : List Node → List Node
  | [] => []
  | n :: rest => Node.appendTo id new n :: appendAmong id new rest

end

mutual

/-- A tree without an element and what is inside it. -/
def Node.without (id : Nat) : Node → Node
  | .element i tag attrs children => .element i tag attrs (withoutAmong id children)
  | .text k s => .text k s

def withoutAmong (id : Nat) : List Node → List Node
  | [] => []
  | n :: rest =>
    if n.id? == some id then withoutAmong id rest else Node.without id n :: withoutAmong id rest

end

end PageHarvest.Html

import Mathlib.Logic.Function.Basic
import PageHarvest.Html.Document
import PageHarvest.Html.Place

/-!
Renumbering. Documents that differ in the numbers of their elements only have their places, texts and
attributes in common, and markup that is parsed from another number on gives such a document.
-/
namespace PageHarvest.Html

mutual

def Node.renumber (f : Nat → Nat) : Node → Node
  | .element id tag attrs children => .element (f id) tag attrs (renumberAll f children)
  | .text kind s => .text kind s

def renumberAll (f : Nat → Nat) : List Node → List Node
  | [] => []
  | n :: rest => n.renumber f :: renumberAll f rest

end

theorem renumberAll_eq_map (f : Nat → Nat) (ns : List Node) :
    renumberAll f ns = ns.map (Node.renumber f) := by
  induction ns with
  | nil => rfl
  | cons n rest ih => rw [renumberAll, ih, List.map_cons]

namespace Node
variable (f : Nat → Nat) (n : Node)

@[simp]
theorem id?_renumber : (n.renumber f).id? = n.id?.map f := by
  cases n <;> rfl

@[simp]
theorem tag?_renumber : (n.renumber f).tag? = n.tag? := by
  cases n <;> rfl

@[simp]
theorem isElement_renumber : (n.renumber f).isElement = n.isElement := by
  cases n <;> rfl

@[simp]
theorem attrs_renumber : (n.renumber f).attrs = n.attrs := by
  cases n <;> rfl

@[simp]
theorem attr?_renumber (name : String) : (n.renumber f).attr? name = n.attr? name := by
  simp only [attr?, attrs_renumber]

@[simp]
theorem children_renumber : (n.renumber f).children = n.children.map (renumber f) := by
  cases n with
  | element id tag attrs children => exact renumberAll_eq_map f children
  | text kind s => rfl

@[simp]
theorem ownTexts_renumber : (n.renumber f).ownTexts = n.ownTexts := by
  simp only [ownTexts, children_renumber, List.filterMap_map]
  congr 1
  funext c
  cases c <;> rfl

end Node

mutual

theorem Node.textsOf_renumber (f : Nat → Nat) (kind : TextKind) (n : Node) :
    (n.renumber f).textsOf kind = n.textsOf kind := by
  match n with
  | .element id tag attrs children => exact textsAmong_renumber f kind children
  | .text k s => rfl

theorem textsAmong_renumber (f : Nat → Nat) (kind : TextKind) (ns : List Node) :
    textsAmong kind (renumberAll f ns) = textsAmong kind ns := by
  match ns with
  | [] => rfl
  | n :: rest =>
    rw [renumberAll, textsAmong, textsAmong, n.textsOf_renumber, textsAmong_renumber f kind rest]

end

mutual

@[simp]
theorem Node.allTexts_renumber (f : Nat → Nat) (frames : Bool) (n : Node) :
    (n.renumber f).allTexts frames = n.allTexts frames := by
  match n with
  | .element id tag attrs children =>
    rw [Node.renumber, Node.allTexts, allTextsAmong_renumber f frames children, Node.allTexts]
  | .text k s => rfl

theorem allTextsAmong_renumber (f : Nat → Nat) (frames : Bool) (ns : List Node) :
    allTextsAmong frames (renumberAll f ns) = allTextsAmong frames ns := by
  match ns with
  | [] => rfl
  | n :: rest =>
    rw [renumberAll, allTextsAmong, allTextsAmong, n.allTexts_renumber, allTextsAmong_renumber f frames rest]

end

@[simp]
theorem Node.shownText_renumber (f : Nat → Nat) (n : Node) : (n.renumber f).shownText = n.shownText := by
  rw [shownText, tag?_renumber, textsOf_renumber, shownText]

namespace Place

def renumber (f : Nat → Nat) : Place → Place
  | top n => top (n.renumber f)
  | inside p before n after =>
    inside (p.renumber f) (before.map (Node.renumber f)) (n.renumber f) (after.map (Node.renumber f))

variable (f : Nat → Nat) (p : Place)

@[simp]
theorem node_renumber : (p.renumber f).node = p.node.renumber f := by
  cases p <;> rfl

@[simp]
theorem id?_renumber : (p.renumber f).id? = p.id?.map f := by
  simp only [id?, node_renumber, Node.id?_renumber]

@[simp]
theorem tag_renumber : (p.renumber f).tag = p.tag := by
  simp only [tag, node_renumber, Node.tag?_renumber]

@[simp]
theorem isElement_renumber : (p.renumber f).isElement = p.isElement := by
  simp only [isElement, node_renumber, Node.isElement_renumber]

@[simp]
theorem parent?_renumber : (p.renumber f).parent? = p.parent?.map (renumber f) := by
  cases p <;> rfl

@[simp]
theorem ancestors_renumber : (p.renumber f).ancestors = p.ancestors.map (renumber f) := by
  induction p with
  | top n => rfl
  | inside p before n after ih => simp only [renumber, ancestors, ih, List.map_cons]

theorem rightward_renumber (before after : List Node) :
    rightward (p.renumber f) (before.map (Node.renumber f)) (after.map (Node.renumber f)) =
      (rightward p before after).map (renumber f) := by
  induction after generalizing before with
  | nil => rfl
  | cons n rest ih => simp only [List.map_cons, rightward, renumber, ← ih]

theorem leftward_renumber (before after : List Node) :
    leftward (p.renumber f) (after.map (Node.renumber f)) (before.map (Node.renumber f)) =
      (leftward p after before).map (renumber f) := by
  induction before generalizing after with
  | nil => rfl
  | cons n rest ih => simp only [List.map_cons, leftward, renumber, ← ih]

@[simp]
theorem following_renumber : (p.renumber f).following = p.following.map (renumber f) := by
  cases p with
  | top n => rfl
  | inside p before n after => exact rightward_renumber f p (n :: before) after

@[simp]
theorem preceding_renumber : (p.renumber f).preceding = p.preceding.map (renumber f) := by
  cases p with
  | top n => rfl
  | inside p before n after => exact leftward_renumber f p before (n :: after)

@[simp]
theorem children_renumber : (p.renumber f).children = p.children.map (renumber f) := by
  rw [children, node_renumber, Node.children_renumber]
  exact rightward_renumber f p [] p.node.children

mutual

theorem belowNode_renumber (self : Place) (n : Node) :
    belowNode (self.renumber f) (n.renumber f) = (belowNode self n).map (renumber f) := by
  match n with
  | .element id tag attrs children => exact belowList_renumber self [] children
  | .text kind s => rfl

theorem belowList_renumber (parent : Place) (before ns : List Node) :
    belowList (parent.renumber f) (before.map (Node.renumber f)) (renumberAll f ns) =
      (belowList parent before ns).map (renumber f) := by
  match ns with
  | [] => rfl
  | n :: after =>
    have here := belowNode_renumber (inside parent before n after) n
    have later := belowList_renumber parent (n :: before) after
    simp only [renumber] at here
    simp only [List.map_cons, renumberAll_eq_map f after] at later
    simp only [renumberAll, belowList, renumberAll_eq_map f after, here, later, List.map_cons,
      List.map_append, renumber]

end

@[simp]
theorem descendants_renumber : (p.renumber f).descendants = p.descendants.map (renumber f) := by
  rw [descendants, node_renumber, belowNode_renumber, List.filter_map, descendants]
  exact congrArg _ (List.filter_congr fun q _ => q.isElement_renumber f)

@[simp]
theorem isFrame_renumber : (p.renumber f).isFrame = p.isFrame := by
  rw [isFrame, tag_renumber, isFrame]

@[simp]
theorem frameAncestors_renumber : (p.renumber f).frameAncestors = p.frameAncestors.map (renumber f) := by
  simp only [frameAncestors, ancestors_renumber, List.takeWhile_map, Function.comp_def, isFrame_renumber]

@[simp]
theorem frameDescendants_renumber :
    (p.renumber f).frameDescendants = p.frameDescendants.map (renumber f) := by
  simp only [frameDescendants, descendants_renumber, List.filter_map, Function.comp_def, ancestors_renumber,
    List.length_map, ← List.map_take, List.all_map, isFrame_renumber]

/-- Other numbers find the same places, as long as they keep elements apart. -/
theorem find?_renumber {f : Nat → Nat} (apart : Function.Injective f) (p : Place) (id : Nat) :
    (p.renumber f).find? (f id) = (p.find? id).map (renumber f) := by
  have same (q : Place) : ((q.renumber f).id? == some (f id)) = (q.id? == some id) := by
    rw [id?_renumber]
    cases q.id? with
    | none => rfl
    | some i =>
      rw [Bool.eq_iff_iff]
      simp only [Option.map_some, beq_iff_eq, Option.some.injEq]
      exact apart.eq_iff
  rw [find?, descendants_renumber, ← List.map_cons, List.find?_map, find?]
  congr 1
  exact congrArg (List.find? · _) (funext same)

end Place

def Frame.renumber (f : Nat → Nat) (frame : Frame) : Frame :=
  { frame with id := f frame.id, children := frame.children.map (Node.renumber f) }

@[simp]
theorem Frame.close_renumber (f : Nat → Nat) (frame : Frame) :
    (frame.renumber f).close = frame.close.renumber f := by
  simp only [Frame.close, Frame.renumber, Node.renumber, renumberAll_eq_map, List.map_reverse]

namespace Builder

/-- The same document being built with numbers that are higher by `n`. -/
def raised (n : Nat) (b : Builder) : Builder :=
  { b with
    stack := b.stack.map (Frame.renumber (· + n))
    base := b.base.renumber (· + n)
    nextId := b.nextId + n }

section Observations
variable (n : Nat) (b : Builder)

@[simp]
theorem current?_raised : (b.raised n).current? = b.current? := by
  rw [current?, raised, List.head?_map, Option.map_map]
  rfl

@[simp]
theorem isOpen_raised (tag : String) : (b.raised n).isOpen tag = b.isOpen tag := by
  rw [isOpen, raised, List.any_map]
  rfl

@[simp]
theorem length_stack_raised : (b.raised n).stack.length = b.stack.length :=
  List.length_map _

@[simp]
theorem isEmpty_stack_raised : (b.raised n).stack.isEmpty = b.stack.isEmpty :=
  List.isEmpty_map

@[simp]
theorem tidied_raised (cs : List Char) : (b.raised n).tidied cs = b.tidied cs := by
  simp only [tidied, isOpen_raised]

@[simp]
theorem textKind_raised : (b.raised n).textKind = b.textKind := by
  rw [textKind, raised, List.map_map]
  rfl

@[simp]
theorem misplaced_raised (tag : String) : (b.raised n).misplaced tag = b.misplaced tag := by
  simp only [misplaced, isEmpty_stack_raised, length_stack_raised, isOpen_raised]

end Observations

section Changes
variable (n : Nat) (b : Builder)

theorem add_raised (node : Node) :
    (b.raised n).add (node.renumber (· + n)) = (b.add node).raised n := by
  obtain ⟨stack, base, pending, nextId, sawHead, sawBody, misplacedOpen⟩ := b
  cases stack with
  | nil => rfl
  | cons f rest => rfl

theorem add_text_raised (kind : TextKind) (s : String) :
    (b.raised n).add (.text kind s) = (b.add (.text kind s)).raised n :=
  b.add_raised n (.text kind s)

theorem flush_raised : (b.raised n).flush = b.flush.raised n := by
  have added := b.add_text_raised n b.textKind (String.ofList (b.tidied b.pending.reverse))
  have same : (b.raised n).pending = b.pending := rfl
  simp only [flush, same, tidied_raised, textKind_raised, added]
  split
  · rfl
  · rfl

theorem push_raised (tag : String) (attrs : List (String × String)) :
    (b.raised n).push tag attrs = (b.push tag attrs).raised n := by
  simp only [push, flush_raised]
  simp only [raised, List.map_cons, Frame.renumber, List.map_nil, Nat.add_right_comm]

theorem pop_raised : (b.raised n).pop = b.pop.raised n := by
  simp only [pop, flush_raised]
  obtain ⟨stack, base, pending, nextId, sawHead, sawBody, misplacedOpen⟩ := b.flush
  cases stack with
  | nil => rfl
  | cons f rest =>
    have closed := add_raised n ⟨rest, base, pending, nextId, sawHead, sawBody, misplacedOpen⟩ f.close
    rw [← Frame.close_renumber] at closed
    exact closed

theorem popWhile_raised (p : String → Bool) (k : Nat) :
    popWhile p k (b.raised n) = (popWhile p k b).raised n := by
  induction k generalizing b with
  | zero => rfl
  | succ k ih =>
    simp only [popWhile, current?_raised, pop_raised, ih]
    split
    · split
      · rfl
      · rfl
    · rfl

theorem ite_raised (c : Prop) [Decidable c] (b' : Builder) :
    (if c then b.raised n else b'.raised n) = (if c then b else b').raised n :=
  (apply_ite _ c b b').symm

theorem autoClose_raised (new : String) : (b.raised n).autoClose new = (b.autoClose new).raised n := by
  rw [autoClose, length_stack_raised, popWhile_raised, autoClose]

theorem imply_raised (new : String) : (b.raised n).imply new = (b.imply new).raised n := by
  have flags (b : Builder) : (b.raised n).sawHead = b.sawHead ∧ (b.raised n).sawBody = b.sawBody :=
    ⟨rfl, rfl⟩
  simp only [imply, isEmpty_stack_raised, push_raised, ite_raised, length_stack_raised, isOpen_raised,
    (flags _).1, (flags _).2]

theorem startTag_raised (tag : String) (attrs : List (String × String)) (selfClosing : Bool) :
    (b.raised n).startTag tag attrs selfClosing = (b.startTag tag attrs selfClosing).raised n := by
  have noted (b : Builder) : { b.raised n with misplacedOpen := (b.raised n).misplacedOpen + 1 } =
      raised n { b with misplacedOpen := b.misplacedOpen + 1 } := rfl
  simp only [startTag, autoClose_raised, imply_raised, misplaced_raised, push_raised, pop_raised, noted,
    ite_raised]

theorem inside?_renumber (f : Nat → Nat) (tag : String) (stack : List Frame) :
    inside? tag (stack.map (Frame.renumber f)) = inside? tag stack := by
  induction stack with
  | nil => rfl
  | cons frame rest ih => simp only [List.map_cons, inside?, ih, Frame.renumber]

theorem endTag_raised (tag : String) : (b.raised n).endTag tag = (b.endTag tag).raised n := by
  have inner : inside? tag (b.raised n).stack = inside? tag b.stack := inside?_renumber _ tag b.stack
  have count : (b.raised n).misplacedOpen = b.misplacedOpen := rfl
  simp only [endTag, inner, count, popWhile_raised, pop_raised]
  split
  · rfl
  · split
    · rfl
    · exact ite_raised ..

theorem text_raised (cs : List Char) : (b.raised n).text cs = (b.text cs).raised n := by
  have pending (b : Builder) (cs : List Char) : { b.raised n with pending := cs } =
      raised n { b with pending := cs } := rfl
  have same (b : Builder) : (b.raised n).pending = b.pending := rfl
  simp only [text, current?_raised, same, pending, autoClose_raised, ite_raised, imply_raised]

theorem take_raised (t : Token) : (b.raised n).take t = (b.take t).raised n := by
  cases t with
  | startTag name attrs selfClosing => exact b.startTag_raised n name attrs selfClosing
  | endTag name => exact b.endTag_raised n name
  | text cs => exact b.text_raised n cs
  | comment cs =>
    rw [take, comment, flush_raised, add_text_raised]
    rfl
  | doctype => exact b.flush_raised n

theorem finish_raised : (b.raised n).finish = b.finish.renumber (· + n) := by
  rw [finish, length_stack_raised, popWhile_raised, flush_raised, finish, ← Frame.close_renumber]
  rfl

end Changes
end Builder

/-- Parsed from another number on, a document has its numbers moved up and nothing else changed. -/
theorem parse_renumber (markup : String) (n : Nat) :
    parse markup n = ((parse markup 0).1.renumber (· + n), (parse markup 0).2 + n) := by
  have built (ts : List Token) (b : Builder) :
      ts.foldl Builder.take (b.raised n) = (ts.foldl Builder.take b).raised n := by
    induction ts generalizing b with
    | nil => rfl
    | cons t rest ih => rw [List.foldl_cons, Builder.take_raised, ih, List.foldl_cons]
  have start : (⟨[], ⟨n, documentTag, [], []⟩, [], n + 1, false, false, 0⟩ : Builder) =
      Builder.raised n ⟨[], ⟨0, documentTag, [], []⟩, [], 0 + 1, false, false, 0⟩ := by
    simp only [Builder.raised, Frame.renumber, List.map_nil, Nat.zero_add, Nat.add_comm 1 n]
  simp only [parse, start, built, Builder.finish_raised]
  rfl

end PageHarvest.Html

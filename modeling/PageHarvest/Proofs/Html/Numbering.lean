import Mathlib.Tactic.Tauto
import PageHarvest.Html.Document
import PageHarvest.Html.Place

/-!
Numbers of elements. A parsed document takes a range of its own, an added element is numbered wherever
its parent is, and what lies below a place is numbered in the tree of that place.
-/
namespace PageHarvest.Html

mutual

/-- The numbers of an element and of everything inside it. -/
def Node.numbers : Node → List Nat
  | .element id _ _ children => id :: numbersAmong children
  | .text _ _ => []

def numbersAmong : List Node → List Nat
  | [] => []
  | n :: rest => n.numbers ++ numbersAmong rest

end

theorem mem_numbersAmong {i : Nat} {ns : List Node} :
    i ∈ numbersAmong ns ↔ ∃ n ∈ ns, i ∈ n.numbers := by
  induction ns with
  | nil => simp [numbersAmong]
  | cons n rest ih => simp [numbersAmong, ih]

theorem Node.mem_numbers_iff {n : Node} {i j : Nat} (numbered : n.id? = some i) :
    j ∈ n.numbers ↔ j = i ∨ j ∈ numbersAmong n.children := by
  cases n with
  | element id tag attrs children =>
    cases numbered
    exact List.mem_cons
  | text kind s => cases numbered

theorem Node.mem_numbers_of_id? {n : Node} {i : Nat} (same : n.id? = some i) : i ∈ n.numbers :=
  (mem_numbers_iff same).mpr (.inl rfl)

@[simp]
theorem Node.id?_appendTo (parent : Nat) (new n : Node) :
    (Node.appendTo parent new n).id? = n.id? := by
  cases n <;> rfl

mutual

theorem Node.mem_numbers_appendTo {i parent : Nat} {new : Node} (n : Node) :
    i ∈ (Node.appendTo parent new n).numbers ↔ i ∈ n.numbers ∨ parent ∈ n.numbers ∧ i ∈ new.numbers := by
  match n with
  | .text kind s => simp [Node.appendTo, Node.numbers]
  | .element id tag attrs children =>
    have inside : i ∈ numbersAmong (appendAmong parent new children) ↔
        i ∈ numbersAmong children ∨ parent ∈ numbersAmong children ∧ i ∈ new.numbers :=
      mem_numbersAmong_append children
    by_cases here : id = parent
    · subst here
      simp only [Node.appendTo, Node.numbers, beq_self_eq_true, if_true, List.mem_cons, true_or, true_and]
      rw [mem_numbersAmong]
      simp only [List.mem_append, List.mem_singleton, or_and_right, exists_or, exists_eq_left]
      rw [← mem_numbersAmong, inside]
      tauto
    · simp only [Node.appendTo, Node.numbers, beq_iff_eq, here, if_false, List.mem_cons]
      rw [inside]
      have other : ¬ parent = id := fun same => here same.symm
      tauto

theorem mem_numbersAmong_append {i parent : Nat} {new : Node} (ns : List Node) :
    i ∈ numbersAmong (appendAmong parent new ns) ↔
      i ∈ numbersAmong ns ∨ parent ∈ numbersAmong ns ∧ i ∈ new.numbers := by
  match ns with
  | [] => simp [appendAmong, numbersAmong]
  | n :: rest =>
    simp only [appendAmong, numbersAmong, List.mem_append]
    rw [Node.mem_numbers_appendTo n, mem_numbersAmong_append rest]
    tauto

end

namespace Place

mutual

/-- What is inside a place below stands together, in the same order. -/
theorem numbers_sublist_of_mem_belowNode {self q : Place} (n : Node) (below : q ∈ belowNode self n) :
    q.node.numbers.Sublist n.numbers := by
  match n with
  | .text kind s => cases below
  | .element id tag attrs children => exact (numbers_sublist_of_mem_belowList children below).cons _

theorem numbers_sublist_of_mem_belowList {parent q : Place} {before : List Node} (ns : List Node)
    (below : q ∈ belowList parent before ns) : q.node.numbers.Sublist (numbersAmong ns) := by
  match ns with
  | [] => cases below
  | n :: after =>
    rcases List.mem_cons.mp below with rfl | later
    · exact List.sublist_append_left _ _
    · rcases List.mem_append.mp later with inside | later
      · exact (numbers_sublist_of_mem_belowNode n inside).trans (List.sublist_append_left _ _)
      · exact (numbers_sublist_of_mem_belowList after later).trans (List.sublist_append_right _ _)

end

theorem numbers_of_mem_descendants {p q : Place} (below : q ∈ p.descendants) {i : Nat}
    (mem : i ∈ q.node.numbers) : i ∈ p.node.numbers :=
  (numbers_sublist_of_mem_belowNode p.node (List.mem_filter.mp below).1).subset mem

mutual

/-- Every number in a tree is that of its top or of a place below. -/
theorem exists_belowNode (self : Place) {i : Nat} (n : Node) (mem : i ∈ n.numbers) :
    n.id? = some i ∨ ∃ q ∈ belowNode self n, q.id? = some i := by
  match n with
  | .text kind s => cases mem
  | .element id tag attrs children =>
    rcases List.mem_cons.mp mem with rfl | inside
    · exact .inl rfl
    · exact .inr (exists_belowList self [] children inside)

theorem exists_belowList (parent : Place) (before : List Node) {i : Nat} (ns : List Node)
    (mem : i ∈ numbersAmong ns) : ∃ q ∈ belowList parent before ns, q.id? = some i := by
  match ns with
  | [] => cases mem
  | n :: after =>
    rcases List.mem_append.mp mem with here | there
    · rcases exists_belowNode (inside parent before n after) n here with same | ⟨q, below, same⟩
      · exact ⟨_, List.mem_cons_self, same⟩
      · exact ⟨q, List.mem_cons_of_mem _ (List.mem_append_left _ below), same⟩
    · obtain ⟨q, below, same⟩ := exists_belowList parent (n :: before) after there
      exact ⟨q, List.mem_cons_of_mem _ (List.mem_append_right _ below), same⟩

end

theorem isElement_of_id? {p : Place} {i : Nat} (same : p.id? = some i) : p.isElement = true := by
  unfold id? at same
  unfold isElement Node.isElement
  cases node : p.node with
  | element id tag attrs children => rfl
  | text kind s =>
    rw [node] at same
    cases same

theorem exists_find? {n : Node} {i : Nat} (mem : i ∈ n.numbers) : ∃ q, (top n).find? i = some q := by
  have somewhere : ∃ q ∈ top n :: (top n).descendants, (q.id? == some i) = true := by
    rcases exists_belowNode (top n) n mem with same | ⟨q, below, same⟩
    · exact ⟨top n, List.mem_cons_self, beq_iff_eq.mpr same⟩
    · refine ⟨q, List.mem_cons_of_mem _ (List.mem_filter.mpr ⟨below, ?_⟩), beq_iff_eq.mpr same⟩
      exact isElement_of_id? same
  obtain ⟨q, found⟩ := Option.isSome_iff_exists.mp (List.find?_isSome.mpr somewhere)
  exact ⟨q, found⟩

/-- A place that is found has the number, and lies in the tree that was searched. -/
theorem numbers_of_find? {p q : Place} {id : Nat} (found : p.find? id = some q) :
    id ∈ q.node.numbers ∧ ∀ i ∈ q.node.numbers, i ∈ p.node.numbers := by
  have same := List.find?_some found
  refine ⟨Node.mem_numbers_of_id? (beq_iff_eq.mp same), fun i mem => ?_⟩
  rcases List.mem_cons.mp (List.mem_of_find?_eq_some found) with rfl | below
  · exact mem
  · exact numbers_of_mem_descendants below mem

end Place

namespace Builder

section Closing
variable (b : Builder)

@[simp]
theorem nextId_add (n : Node) : (b.add n).nextId = b.nextId := by
  unfold add
  split <;> rfl

@[simp]
theorem nextId_flush : b.flush.nextId = b.nextId := by
  unfold flush
  split
  · rfl
  · exact b.nextId_add _

@[simp]
theorem nextId_pop : b.pop.nextId = b.nextId := by
  unfold pop
  dsimp only
  split
  · rw [nextId_add, nextId_flush]
  · exact b.nextId_flush

@[simp]
theorem nextId_popWhile (p : String → Bool) (n : Nat) : (popWhile p n b).nextId = b.nextId := by
  induction n generalizing b with
  | zero => rfl
  | succ n ih =>
    unfold popWhile
    split
    · split
      · rw [ih, nextId_pop]
      · rfl
    · rfl

@[simp]
theorem length_stack_add (n : Node) : (b.add n).stack.length = b.stack.length := by
  unfold add
  split
  · rename_i f rest stack
    rw [stack, List.length_cons, List.length_cons]
  · rfl

@[simp]
theorem length_stack_flush : b.flush.stack.length = b.stack.length := by
  unfold flush
  split
  · rfl
  · exact b.length_stack_add _

theorem length_stack_pop : b.pop.stack.length = b.stack.length - 1 := by
  rw [← b.length_stack_flush]
  unfold pop
  dsimp only
  split
  · rename_i f rest stack
    rw [length_stack_add, stack, List.length_cons, Nat.add_sub_cancel]
  · rename_i stack
    rw [stack]
    rfl

/-- Closing as many elements as are open leaves none open. -/
theorem stack_popWhile_all (n : Nat) (enough : b.stack.length ≤ n) :
    (popWhile (fun _ => true) n b).stack = [] := by
  induction n generalizing b with
  | zero => exact List.eq_nil_of_length_eq_zero (Nat.le_zero.mp enough)
  | succ n ih =>
    unfold popWhile
    split
    · rw [if_pos rfl]
      apply ih
      rw [length_stack_pop]
      omega
    · rename_i outside
      exact List.head?_eq_none_iff.mp (Option.map_eq_none_iff.mp outside)

end Closing

/-- A property of documents being built that stays when something is noted, text comes in, an element
opens, and the innermost one closes. -/
structure Kept (P : Builder → Prop) : Prop where
  notes : ∀ {b} pending sawHead sawBody misplacedOpen, P b →
    P { b with pending, sawHead, sawBody, misplacedOpen }
  adds : ∀ {b} kind s, P b → P (b.add (.text kind s))
  opens : ∀ {b} tag attrs, P b →
    P { b with stack := ⟨b.nextId, tag, attrs, []⟩ :: b.stack, nextId := b.nextId + 1 }
  closes : ∀ {b f rest}, b.stack = f :: rest → P b → P (add { b with stack := rest } f.close)

namespace Kept
variable {P : Builder → Prop} {b : Builder} (kept : Kept P)
include kept

theorem flush (holds : P b) : P b.flush := by
  unfold Builder.flush
  split
  · exact holds
  · exact kept.notes [] _ _ _ (kept.adds _ _ holds)

theorem push (holds : P b) (tag : String) (attrs : List (String × String)) : P (b.push tag attrs) :=
  kept.notes _ _ _ _ (kept.opens tag _ (kept.flush holds))

theorem pop (holds : P b) : P b.pop := by
  unfold Builder.pop
  dsimp only
  split
  · rename_i f rest stack
    exact kept.closes stack (kept.flush holds)
  · exact kept.flush holds

theorem popWhile (p : String → Bool) (n : Nat) (holds : P b) : P (Builder.popWhile p n b) := by
  induction n generalizing b with
  | zero => exact holds
  | succ n ih =>
    unfold Builder.popWhile
    split
    · split
      · exact ih (kept.pop holds)
      · exact holds
    · exact holds

omit kept in
theorem ite {c : Prop} [Decidable c] {b' : Builder} (yes : P b) (no : P b') : P (if c then b else b') := by
  split
  · exact yes
  · exact no

theorem imply (new : String) (holds : P b) : P (b.imply new) := by
  have opened : P (if b.stack.isEmpty then b.push "html" [] else b) := ite (kept.push holds _ _) holds
  unfold Builder.imply
  dsimp only
  generalize (if b.stack.isEmpty then b.push "html" [] else b) = b' at opened ⊢
  exact ite holds (ite opened (ite (ite opened (kept.push opened _ _))
    (ite opened (ite opened (kept.push opened _ _)))))

theorem startTag (holds : P b) (tag : String) (attrs : List (String × String)) (selfClosing : Bool) :
    P (b.startTag tag attrs selfClosing) := by
  have implied : P ((b.autoClose tag).imply tag) := kept.imply tag (kept.popWhile _ _ holds)
  have pushed := kept.push implied tag attrs
  unfold Builder.startTag
  dsimp only
  exact ite (kept.notes _ _ _ _ implied) (ite (kept.pop pushed) pushed)

theorem endTag (holds : P b) (tag : String) : P (b.endTag tag) := by
  unfold Builder.endTag
  split
  · exact kept.notes _ _ _ _ holds
  · split
    · exact holds
    · split
      · exact holds
      · exact kept.pop (kept.popWhile _ _ holds)

theorem text (holds : P b) (cs : List Char) : P (b.text cs) := by
  have led : P { b with pending := (cs.takeWhile isSpace).reverse ++ b.pending } := kept.notes _ _ _ _ holds
  unfold Builder.text
  dsimp only
  exact ite (ite led (kept.notes _ _ _ _ (kept.imply "p" (ite (kept.popWhile _ _ led) led))))
    (kept.notes _ _ _ _ holds)

theorem take (holds : P b) (t : Token) : P (b.take t) := by
  cases t with
  | startTag name attrs selfClosing => exact kept.startTag holds name attrs selfClosing
  | endTag name => exact kept.endTag holds name
  | text cs => exact kept.text holds cs
  | comment cs => exact kept.adds _ _ (kept.flush holds)
  | doctype => exact kept.flush holds

/-- What holds of an empty document being built holds when its markup has been read and everything is
closed. -/
theorem parse (markup : String) {first : Nat}
    (start : P ⟨[], ⟨first, documentTag, [], []⟩, [], first + 1, false, false, 0⟩) :
    ∃ b, P b ∧ b.stack = [] ∧ Html.parse markup first = (b.base.close, b.nextId) := by
  have built (ts : List Token) (b : Builder) (holds : P b) : P (ts.foldl Builder.take b) := by
    induction ts generalizing b with
    | nil => exact holds
    | cons t rest ih => exact ih _ (kept.take holds t)
  obtain ⟨b, holds, parsed⟩ : ∃ b, P b ∧ Html.parse markup first = (b.finish, b.nextId) :=
    ⟨_, built _ _ start, rfl⟩
  refine ⟨(Builder.popWhile (fun _ => true) b.stack.length b).flush,
    kept.flush (kept.popWhile _ _ holds), ?_, ?_⟩
  · apply List.eq_nil_of_length_eq_zero
    rw [length_stack_flush, b.stack_popWhile_all _ (Nat.le_refl _), List.length_nil]
  · rw [parsed, nextId_flush, nextId_popWhile]
    rfl

end Kept

end Builder

/-- An open element whose number and whose content's numbers are among `low`, …, `high - 1`. -/
def Frame.Within (low high : Nat) (f : Frame) : Prop :=
  (low ≤ f.id ∧ f.id < high) ∧ ∀ i ∈ numbersAmong f.children, low ≤ i ∧ i < high

theorem Frame.Within.weaken {low high high' : Nat} {f : Frame} (within : f.Within low high)
    (more : high ≤ high') : f.Within low high' :=
  ⟨⟨within.1.1, Nat.lt_of_lt_of_le within.1.2 more⟩,
    fun i mem => ⟨(within.2 i mem).1, Nat.lt_of_lt_of_le (within.2 i mem).2 more⟩⟩

theorem Frame.Within.close {low high : Nat} {f : Frame} (within : f.Within low high) :
    ∀ i ∈ f.close.numbers, low ≤ i ∧ i < high := by
  intro i mem
  rcases List.mem_cons.mp mem with rfl | inside
  · exact within.1
  · refine within.2 i ?_
    rw [mem_numbersAmong] at inside ⊢
    obtain ⟨n, child, mem⟩ := inside
    exact ⟨n, List.mem_reverse.mp child, mem⟩

/-- A document being built from the number `first` on. -/
structure Builder.Within (first : Nat) (b : Builder) : Prop where
  base_id : b.base.id = first
  base : b.base.Within first b.nextId
  stack : ∀ f ∈ b.stack, f.Within first b.nextId

namespace Builder.Within
variable {first : Nat} {b : Builder}

theorem add (within : Within first b) {n : Node} (numbers : ∀ i ∈ n.numbers, first ≤ i ∧ i < b.nextId) :
    Within first (b.add n) := by
  have grown {f : Frame} (open_ : f.Within first b.nextId) :
      Frame.Within first b.nextId { f with children := n :: f.children } := by
    refine ⟨open_.1, fun i mem => ?_⟩
    rcases List.mem_append.mp mem with new | old
    · exact numbers i new
    · exact open_.2 i old
  unfold Builder.add
  split
  · rename_i f rest stack
    refine ⟨within.base_id, within.base, fun g mem => ?_⟩
    rcases List.mem_cons.mp mem with rfl | below
    · exact grown (within.stack f (stack ▸ List.mem_cons_self))
    · exact within.stack g (stack ▸ List.mem_cons_of_mem f below)
  · exact ⟨within.base_id, grown within.base, within.stack⟩

theorem kept (first : Nat) : Kept (Within first) where
  notes _ _ _ _ within := ⟨within.base_id, within.base, within.stack⟩
  adds _ _ within := within.add fun _ mem => by cases mem
  opens tag attrs within := by
    refine ⟨within.base_id, within.base.weaken (Nat.le_succ _), fun f mem => ?_⟩
    rcases List.mem_cons.mp mem with rfl | below
    · exact ⟨⟨Nat.le_of_lt (Nat.lt_of_le_of_lt within.base.1.1 within.base.1.2), Nat.lt_succ_self _⟩,
        fun i mem => by cases mem⟩
    · exact (within.stack f below).weaken (Nat.le_succ _)
  closes {b f rest} stack within := by
    have outer : Within first { b with stack := rest } :=
      ⟨within.base_id, within.base, fun g mem => within.stack g (stack ▸ List.mem_cons_of_mem f mem)⟩
    exact outer.add (within.stack f (stack ▸ List.mem_cons_self)).close

end Builder.Within

/-- A parsed document has the number that was asked for, and all its elements are numbered from there
up to the next free number. -/
theorem parse_numbers (markup : String) (first : Nat) :
    (parse markup first).1.id? = some first ∧ first < (parse markup first).2 ∧
      ∀ i ∈ (parse markup first).1.numbers, first ≤ i ∧ i < (parse markup first).2 := by
  have start : Builder.Within first ⟨[], ⟨first, documentTag, [], []⟩, [], first + 1, false, false, 0⟩ :=
    ⟨rfl, ⟨⟨Nat.le_refl _, Nat.lt_succ_self _⟩, fun i mem => by cases mem⟩, fun f mem => by cases mem⟩
  obtain ⟨b, within, -, parsed⟩ := (Builder.Within.kept first).parse markup start
  rw [parsed]
  exact ⟨congrArg some within.base_id, within.base_id ▸ within.base.1.2, within.base.close⟩

end PageHarvest.Html

import Mathlib.Data.List.Nodup
import PageHarvest.Proofs.Html.Numbering

/-!
Document order. The numbers of a tree stand in the order in which its elements begin, and a parsed
document has them in a row. Those inside an element stand together, so that elements that are not inside
one another have their contents one after another.
-/
namespace PageHarvest.Html

mutual

/-- The numbers inside an element of a tree, in document order. -/
def Node.inside (i : Nat) : Node → List Nat
  | .element id _ _ children => if id = i then numbersAmong children else insideAmong i children
  | .text _ _ => []

def insideAmong (i : Nat) : List Node → List Nat
  | [] => []
  | n :: rest => n.inside i ++ insideAmong i rest

end

section Inside
variable {i : Nat}

theorem Node.inside_self {n : Node} (numbered : n.id? = some i) : n.inside i = numbersAmong n.children := by
  cases n with
  | text kind s => cases numbered
  | element id tag attrs children => exact if_pos (Option.some.inj numbered)

mutual

theorem Node.inside_sublist (n : Node) : (n.inside i).Sublist n.numbers := by
  match n with
  | .text kind s => exact .slnil
  | .element id tag attrs children =>
    unfold Node.inside
    split
    · exact List.sublist_cons_self _ _
    · exact (insideAmong_sublist children).trans (List.sublist_cons_self _ _)

theorem insideAmong_sublist (ns : List Node) : (insideAmong i ns).Sublist (numbersAmong ns) := by
  match ns with
  | [] => exact .slnil
  | n :: rest => exact n.inside_sublist.append (insideAmong_sublist rest)

end

mutual

theorem Node.inside_of_not_mem (n : Node) (absent : i ∉ n.numbers) : n.inside i = [] := by
  match n with
  | .text kind s => rfl
  | .element id tag attrs children =>
    obtain ⟨other, absent⟩ := not_or.mp (mt List.mem_cons.mpr absent)
    unfold Node.inside
    rw [if_neg (Ne.symm other), insideAmong_of_not_mem children absent]

theorem insideAmong_of_not_mem (ns : List Node) (absent : i ∉ numbersAmong ns) : insideAmong i ns = [] := by
  match ns with
  | [] => rfl
  | n :: rest =>
    obtain ⟨here, there⟩ := not_or.mp (mt List.mem_append.mpr absent)
    rw [insideAmong, n.inside_of_not_mem here, insideAmong_of_not_mem rest there, List.append_nil]

end

/-- No element is inside itself. -/
theorem Node.not_mem_inside_self (n : Node) (distinct : n.numbers.Nodup) (numbered : n.id? = some i) :
    i ∉ n.inside i := by
  rw [Node.inside_self numbered]
  cases n with
  | text kind s => cases numbered
  | element id tag attrs children =>
    cases numbered
    exact (List.nodup_cons.mp distinct).1

end Inside

theorem numbersAmong_append (ms ns : List Node) :
    numbersAmong (ms ++ ns) = numbersAmong ms ++ numbersAmong ns := by
  induction ms with
  | nil => rfl
  | cons m rest ih => rw [List.cons_append, numbersAmong, numbersAmong, ih, List.append_assoc]

/-- The numbers of a document being built, in document order. -/
def Builder.listing (b : Builder) : List Nat :=
  (b.base :: b.stack.reverse).flatMap fun f => f.close.numbers

theorem Frame.numbers_close_cons (f : Frame) (n : Node) :
    ({ f with children := n :: f.children } : Frame).close.numbers = f.close.numbers ++ n.numbers := by
  show f.id :: numbersAmong (n :: f.children).reverse = f.id :: (numbersAmong f.children.reverse ++ n.numbers)
  rw [List.reverse_cons, numbersAmong_append, numbersAmong, numbersAmong, List.append_nil]

theorem Builder.listing_stack {b : Builder} {f : Frame} {rest : List Frame} (stack : b.stack = f :: rest) :
    b.listing = ({ b with stack := rest } : Builder).listing ++ f.close.numbers := by
  unfold listing
  rw [stack, List.reverse_cons, ← List.cons_append, List.flatMap_append, List.flatMap_singleton]

theorem Builder.listing_add (b : Builder) (n : Node) : (b.add n).listing = b.listing ++ n.numbers := by
  unfold add
  split
  · rename_i f rest stack
    rw [listing_stack stack, listing_stack rfl, Frame.numbers_close_cons, List.append_assoc]
  · rename_i stack
    unfold listing
    rw [stack, List.reverse_nil, List.flatMap_singleton, List.flatMap_singleton, Frame.numbers_close_cons]

/-- A document being built with numbers in a row, from `first` on. -/
structure Builder.Consecutive (first : Nat) (b : Builder) : Prop where
  le : first ≤ b.nextId
  listing : b.listing = List.range' first (b.nextId - first)

theorem Builder.Consecutive.kept (first : Nat) : Kept (Consecutive first) where
  notes _ _ _ _ row := ⟨row.le, row.listing⟩
  adds {b} kind s row := by
    refine ⟨?_, ?_⟩
    · rw [nextId_add]
      exact row.le
    · rw [listing_add, nextId_add, row.listing]
      exact List.append_nil _
  opens {b} tag attrs row := by
    refine ⟨Nat.le_succ_of_le row.le, ?_⟩
    have last : first + (b.nextId - first) = b.nextId := Nat.add_sub_cancel' row.le
    have next : b.nextId + 1 - first = b.nextId - first + 1 := Nat.succ_sub row.le
    rw [listing_stack rfl, next, List.range'_1_concat, last, ← row.listing]
    rfl
  closes {b f rest} stack row := by
    refine ⟨?_, ?_⟩
    · rw [nextId_add]
      exact row.le
    · rw [listing_add, nextId_add, ← listing_stack stack]
      exact row.listing

/-- The elements of a parsed document are numbered in document order, without gaps. -/
theorem parse_numbers_eq (markup : String) (first : Nat) :
    (parse markup first).1.numbers = List.range' first ((parse markup first).2 - first) := by
  have start : Builder.Consecutive first
      ⟨[], ⟨first, documentTag, [], []⟩, [], first + 1, false, false, 0⟩ := by
    refine ⟨Nat.le_succ first, ?_⟩
    show [first] = List.range' first (first + 1 - first)
    rw [Nat.add_sub_cancel_left, List.range'_one]
  obtain ⟨b, row, closed, parsed⟩ := (Builder.Consecutive.kept first).parse markup start
  have whole := row.listing
  unfold Builder.listing at whole
  rw [closed, List.reverse_nil, List.flatMap_singleton] at whole
  rw [parsed, whole]

theorem nodup_parse (markup : String) (first : Nat) : (parse markup first).1.numbers.Nodup := by
  rw [parse_numbers_eq]
  exact List.nodup_range'

section Appending
variable {parent : Nat} {new : Node}

mutual

theorem Node.nodup_appendTo (n : Node) (distinct : n.numbers.Nodup) (new_distinct : new.numbers.Nodup)
    (fresh : ∀ i ∈ new.numbers, i ∉ n.numbers) : (Node.appendTo parent new n).numbers.Nodup := by
  match n with
  | .text kind s => exact distinct
  | .element id tag attrs children =>
    obtain ⟨alone, distinct⟩ := List.nodup_cons.mp distinct
    have fresh_below : ∀ i ∈ new.numbers, i ∉ numbersAmong children :=
      fun i mem below => fresh i mem (List.mem_cons_of_mem _ below)
    have below := nodup_appendAmong children distinct new_distinct fresh_below
    have id_new : id ∉ new.numbers := fun mem => fresh id mem List.mem_cons_self
    have outside : id ∉ numbersAmong (appendAmong parent new children) := by
      rw [mem_numbersAmong_append]
      exact fun mem => mem.elim alone fun mem => id_new mem.2
    unfold Node.appendTo
    dsimp only
    split
    · rename_i here
      cases beq_iff_eq.mp here
      rw [Node.numbers, numbersAmong_append, numbersAmong, numbersAmong, List.append_nil]
      refine List.nodup_cons.mpr ⟨fun mem => (List.mem_append.mp mem).elim outside id_new,
        below.append new_distinct fun i old added => ?_⟩
      rcases (mem_numbersAmong_append children).mp old with old | ⟨above, -⟩
      · exact fresh_below i added old
      · exact alone above
    · exact List.nodup_cons.mpr ⟨outside, below⟩

theorem nodup_appendAmong (ns : List Node) (distinct : (numbersAmong ns).Nodup)
    (new_distinct : new.numbers.Nodup) (fresh : ∀ i ∈ new.numbers, i ∉ numbersAmong ns) :
    (numbersAmong (appendAmong parent new ns)).Nodup := by
  match ns with
  | [] => exact .nil
  | n :: rest =>
    obtain ⟨here, there, disjoint⟩ := List.nodup_append'.mp distinct
    have fresh_here : ∀ i ∈ new.numbers, i ∉ n.numbers :=
      fun i mem old => fresh i mem (List.mem_append_left _ old)
    have fresh_there : ∀ i ∈ new.numbers, i ∉ numbersAmong rest :=
      fun i mem old => fresh i mem (List.mem_append_right _ old)
    refine (n.nodup_appendTo here new_distinct fresh_here).append
      (nodup_appendAmong rest there new_distinct fresh_there) fun i first second => ?_
    rcases (Node.mem_numbers_appendTo n).mp first with old | ⟨above, added⟩
    · rcases (mem_numbersAmong_append rest).mp second with old' | ⟨-, added⟩
      · exact disjoint old old'
      · exact fresh_here i added old
    · rcases (mem_numbersAmong_append rest).mp second with old' | ⟨above', -⟩
      · exact fresh_there i added old'
      · exact disjoint above above'

end

end Appending

section Removing
variable {id : Nat}

@[simp]
theorem Node.id?_without (n : Node) : (n.without id).id? = n.id? := by
  cases n <;> rfl

mutual

theorem Node.numbers_without_sublist (n : Node) : (n.without id).numbers.Sublist n.numbers := by
  match n with
  | .text kind s => exact .slnil
  | .element i tag attrs children => exact (numbersAmong_without_sublist children).cons_cons _

theorem numbersAmong_without_sublist (ns : List Node) :
    (numbersAmong (withoutAmong id ns)).Sublist (numbersAmong ns) := by
  match ns with
  | [] => exact .slnil
  | n :: rest =>
    have others := numbersAmong_without_sublist rest
    unfold withoutAmong
    split
    · exact others.trans (List.sublist_append_right _ _)
    · exact n.numbers_without_sublist.append others

end

mutual

/-- Of an element that is taken out nothing stays. -/
theorem Node.not_mem_without {i : Nat} (n : Node) (distinct : n.numbers.Nodup) (other : n.id? ≠ some id)
    (mem : i ∈ (n.without id).numbers) : i ≠ id ∧ i ∉ n.inside id := by
  match n with
  | .text kind s => cases mem
  | .element k tag attrs children =>
    obtain ⟨alone, distinct⟩ := List.nodup_cons.mp distinct
    have other : k ≠ id := fun same => other (congrArg some same)
    unfold Node.inside
    rw [if_neg other]
    rcases List.mem_cons.mp mem with rfl | below
    · exact ⟨other, fun inside => alone ((insideAmong_sublist children).subset inside)⟩
    · exact not_mem_withoutAmong children distinct below

theorem not_mem_withoutAmong {i : Nat} (ns : List Node) (distinct : (numbersAmong ns).Nodup)
    (mem : i ∈ numbersAmong (withoutAmong id ns)) : i ≠ id ∧ i ∉ insideAmong id ns := by
  match ns with
  | [] => cases mem
  | n :: rest =>
    obtain ⟨here, there, disjoint⟩ := List.nodup_append'.mp distinct
    rw [insideAmong, List.mem_append, not_or]
    unfold withoutAmong at mem
    split at mem
    · rename_i found
      have id_here := Node.mem_numbers_of_id? (beq_iff_eq.mp found)
      have i_there := (numbersAmong_without_sublist rest).subset mem
      refine ⟨?_, fun inside => disjoint (n.inside_sublist.subset inside) i_there, ?_⟩
      · rintro rfl
        exact disjoint id_here i_there
      · rw [insideAmong_of_not_mem rest (disjoint id_here)]
        exact List.not_mem_nil
    · rename_i other
      rcases List.mem_append.mp mem with first | second
      · obtain ⟨apart, outside⟩ := n.not_mem_without here (fun same => other (beq_iff_eq.mpr same)) first
        have i_here := n.numbers_without_sublist.subset first
        exact ⟨apart, outside, fun inside => disjoint i_here ((insideAmong_sublist rest).subset inside)⟩
      · obtain ⟨apart, outside⟩ := not_mem_withoutAmong rest there second
        have i_there := (numbersAmong_without_sublist rest).subset second
        exact ⟨apart, fun inside => disjoint (n.inside_sublist.subset inside) i_there, outside⟩

end

end Removing

mutual

/-- The contents of elements that are not inside one another follow one another as the elements do. -/
theorem Node.flatMap_inside_sublist {roots : List Nat} (n : Node) (distinct : n.numbers.Nodup)
    (listed : roots.Sublist n.numbers) (apart : ∀ r ∈ roots, ∀ r' ∈ roots, r' ∉ n.inside r) :
    (roots.flatMap fun r => n.inside r).Sublist n.numbers := by
  match n with
  | .text kind s =>
    cases List.sublist_nil.mp listed
    exact .slnil
  | .element id tag attrs children =>
    obtain ⟨fresh, distinct⟩ := List.nodup_cons.mp distinct
    rcases List.sublist_cons_iff.mp listed with below | ⟨others, rfl, below⟩
    · have narrowed : ∀ r ∈ roots, Node.inside r (.element id tag attrs children) = insideAmong r children :=
        fun r mem => if_neg fun same : id = r => fresh (same ▸ below.subset mem)
      rw [List.flatMap_congr narrowed]
      refine (flatMap_insideAmong_sublist children distinct below fun r mem r' mem' => ?_).trans
        (List.sublist_cons_self _ _)
      rw [← narrowed r mem]
      exact apart r mem r' mem'
    -- Everything else is inside the outermost element, so that it can only be a root alone.
    · have whole : Node.inside id (.element id tag attrs children) = numbersAmong children := if_pos rfl
      have alone : others = [] := by
        refine List.eq_nil_iff_forall_not_mem.mpr fun r mem => ?_
        refine apart id List.mem_cons_self r (List.mem_cons_of_mem _ mem) ?_
        rw [whole]
        exact below.subset mem
      rw [alone, List.flatMap_singleton, whole]
      exact List.sublist_cons_self _ _

theorem flatMap_insideAmong_sublist {roots : List Nat} (ns : List Node)
    (distinct : (numbersAmong ns).Nodup) (listed : roots.Sublist (numbersAmong ns))
    (apart : ∀ r ∈ roots, ∀ r' ∈ roots, r' ∉ insideAmong r ns) :
    (roots.flatMap fun r => insideAmong r ns).Sublist (numbersAmong ns) := by
  match ns with
  | [] =>
    cases List.sublist_nil.mp listed
    exact .slnil
  | n :: rest =>
    obtain ⟨distinct_here, distinct_there, disjoint⟩ := List.nodup_append.mp distinct
    obtain ⟨here, there, rfl, listed_here, listed_there⟩ := List.sublist_append_iff.mp listed
    have inside_here : ∀ r ∈ here, insideAmong r (n :: rest) = n.inside r := by
      intro r mem
      have absent : r ∉ numbersAmong rest := fun inside => disjoint r (listed_here.subset mem) r inside rfl
      rw [insideAmong, insideAmong_of_not_mem rest absent, List.append_nil]
    have inside_there : ∀ r ∈ there, insideAmong r (n :: rest) = insideAmong r rest := by
      intro r mem
      have absent : r ∉ n.numbers := fun inside => disjoint r inside r (listed_there.subset mem) rfl
      rw [insideAmong, n.inside_of_not_mem absent, List.nil_append]
    rw [List.flatMap_append, List.flatMap_congr inside_here, List.flatMap_congr inside_there]
    refine (Node.flatMap_inside_sublist n distinct_here listed_here fun r mem r' mem' => ?_).append
      (flatMap_insideAmong_sublist rest distinct_there listed_there fun r mem r' mem' => ?_)
    · rw [← inside_here r mem]
      exact apart r (List.mem_append_left _ mem) r' (List.mem_append_left _ mem')
    · rw [← inside_there r mem]
      exact apart r (List.mem_append_right _ mem) r' (List.mem_append_right _ mem')

end

namespace Place

mutual

/-- The places below a node are in document order. -/
theorem id?_belowNode (self : Place) (n : Node) : (belowNode self n).filterMap id? = numbersAmong n.children := by
  match n with
  | .text kind s => rfl
  | .element id tag attrs children => exact id?_belowList self [] children

theorem id?_belowList (parent : Place) (before ns : List Node) :
    (belowList parent before ns).filterMap id? = numbersAmong ns := by
  match ns with
  | [] => rfl
  | n :: after =>
    have here := id?_belowNode (inside parent before n after) n
    have there := id?_belowList parent (n :: before) after
    rw [belowList, List.cons_append, List.filterMap_cons, List.filterMap_append, here, there]
    cases n <;> rfl

end

theorem id?_descendants (p : Place) : p.descendants.filterMap id? = numbersAmong p.node.children := by
  rw [descendants, List.filterMap_filter, ← id?_belowNode p]
  refine List.filterMap_congr fun q _ => ?_
  cases numbered : q.id? with
  | none => simp
  | some i => rw [if_pos (isElement_of_id? numbered)]

theorem id?_ne_of_mem_belowNode {self q : Place} {i : Nat} (n : Node) (distinct : n.numbers.Nodup)
    (below : q ∈ belowNode self n) (numbered : q.id? = some i) : n.id? ≠ some i := by
  cases n with
  | text kind s => cases below
  | element id tag attrs children =>
    have mem := (numbers_sublist_of_mem_belowList children below).subset (Node.mem_numbers_of_id? numbered)
    intro same
    exact (List.nodup_cons.mp distinct).1 (Option.some.inj same ▸ mem)

mutual

theorem inside_of_mem_belowNode {self q : Place} {i : Nat} (n : Node) (distinct : n.numbers.Nodup)
    (below : q ∈ belowNode self n) (numbered : q.id? = some i) : numbersAmong q.node.children = n.inside i := by
  match n with
  | .text kind s => cases below
  | .element id tag attrs children =>
    have other := id?_ne_of_mem_belowNode _ distinct below numbered
    unfold Node.inside
    rw [if_neg fun same : id = i => other (congrArg some same)]
    exact inside_of_mem_belowList children (List.nodup_cons.mp distinct).2 below numbered

theorem inside_of_mem_belowList {parent q : Place} {before : List Node} {i : Nat} (ns : List Node)
    (distinct : (numbersAmong ns).Nodup) (below : q ∈ belowList parent before ns) (numbered : q.id? = some i) :
    numbersAmong q.node.children = insideAmong i ns := by
  match ns with
  | [] => cases below
  | n :: after =>
    obtain ⟨distinct_here, distinct_there, disjoint⟩ := List.nodup_append.mp distinct
    have only_here (mem : i ∈ n.numbers) : insideAmong i (n :: after) = n.inside i := by
      have absent : i ∉ numbersAmong after := fun there => disjoint i mem i there rfl
      rw [insideAmong, insideAmong_of_not_mem after absent, List.append_nil]
    rcases List.mem_cons.mp below with rfl | below
    · rw [only_here (Node.mem_numbers_of_id? numbered)]
      exact (Node.inside_self numbered).symm
    · rcases List.mem_append.mp below with here | there
      · rw [only_here ((numbers_sublist_of_mem_belowNode n here).subset (Node.mem_numbers_of_id? numbered))]
        exact inside_of_mem_belowNode n distinct_here here numbered
      · have mem := (numbers_sublist_of_mem_belowList after there).subset (Node.mem_numbers_of_id? numbered)
        have absent : i ∉ n.numbers := fun here => disjoint i here i mem rfl
        rw [insideAmong, n.inside_of_not_mem absent, List.nil_append]
        exact inside_of_mem_belowList after distinct_there there numbered

end

mutual

/-- What is below a place is below whatever that place is below. -/
theorem belowNode_subset {self p : Place} (n : Node) (below : p ∈ belowNode self n) :
    belowNode p p.node ⊆ belowNode self n := by
  match n with
  | .text kind s => cases below
  | .element id tag attrs children => exact belowList_subset children below

theorem belowList_subset {parent p : Place} {before : List Node} (ns : List Node)
    (below : p ∈ belowList parent before ns) : belowNode p p.node ⊆ belowList parent before ns := by
  match ns with
  | [] => cases below
  | n :: after =>
    intro q mem
    apply List.mem_cons_of_mem
    rcases List.mem_cons.mp below with rfl | below
    · exact List.mem_append_left _ mem
    · rcases List.mem_append.mp below with here | there
      · exact List.mem_append_left _ (belowNode_subset n here mem)
      · exact List.mem_append_right _ (belowList_subset after there mem)

end

section Found
variable {t : Node} {p q : Place} {i : Nat}

theorem id?_of_find? (found : (top t).find? i = some p) : p.id? = some i :=
  beq_iff_eq.mp (List.find?_some found :)

/-- What is below an element that is found is below the whole tree. -/
theorem mem_belowNode_of_find? (found : (top t).find? i = some p) (below : q ∈ p.descendants) :
    q ∈ belowNode (top t) t := by
  have below := (List.mem_filter.mp below).1
  rcases List.mem_cons.mp (List.mem_of_find?_eq_some found) with rfl | inner
  · exact below
  · exact belowNode_subset t (List.mem_filter.mp inner).1 below

/-- What is inside an element that is found is what the tree has inside it. -/
theorem inside_of_find? (distinct : t.numbers.Nodup) (found : (top t).find? i = some q) :
    numbersAmong q.node.children = t.inside i := by
  have numbered := id?_of_find? found
  rcases List.mem_cons.mp (List.mem_of_find?_eq_some found) with rfl | below
  · exact (Node.inside_self numbered).symm
  · exact inside_of_mem_belowNode t distinct (List.mem_filter.mp below).1 numbered

end Found

end Place

end PageHarvest.Html

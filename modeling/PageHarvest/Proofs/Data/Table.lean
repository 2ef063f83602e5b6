import PageHarvest.Data.Table
import Mathlib.Data.List.Nodup

/-! What a table holds after entries were put one after another: every key once, at its first place,
with the value that came last. -/
namespace PageHarvest.Table
variable {κ α : Type} [BEq κ] [LawfulBEq κ]

/-- Keys in the order in which they first come, each with the value that comes last. -/
def settled (entries : List (κ × α)) : Table κ α :=
  (entries.map (·.1)).eraseDups.filterMap fun k => (entries.reverse.lookup k).map (k, ·)

theorem nodup_eraseDups : (ks : List κ) → ks.eraseDups.Nodup
  | [] => List.nodup_nil
  | k :: rest => by
    rw [List.eraseDups_cons, List.nodup_cons, List.mem_eraseDups]
    exact ⟨by simp, nodup_eraseDups _⟩
termination_by ks => ks.length
decreasing_by exact Nat.lt_succ_of_le (List.length_filter_le _ _)

theorem eraseDups_of_nodup {ks : List κ} (distinct : ks.Nodup) : ks.eraseDups = ks := by
  induction ks with
  | nil => rfl
  | cons k rest ih =>
    obtain ⟨fresh, distinct⟩ := List.nodup_cons.mp distinct
    have others : (rest.filter fun k' => !k' == k) = rest := by
      rw [List.filter_eq_self]
      intro k' mem
      have other : (k' == k) = false := beq_eq_false_iff_ne.mpr fun same => fresh (same ▸ mem)
      rw [other, Bool.not_false]
    rw [List.eraseDups_cons, others, ih distinct]

omit [BEq κ] [LawfulBEq κ] in
/-- What holds of the entries and of the new value under its key and theirs holds after a value was put. -/
theorem forall_putBy {holds : κ × α → Prop} {same : κ → κ → Bool} {t : Table κ α} {k : κ} {a : α}
    (each : ∀ e ∈ t, holds e) (new : holds (k, a)) (again : ∀ e ∈ t, holds (e.1, a)) :
    ∀ e ∈ t.putBy same k a, holds e := by
  induction t with
  | nil => exact List.forall_mem_singleton.mpr new
  | cons e rest ih =>
    obtain ⟨first, others⟩ := List.forall_mem_cons.mp each
    obtain ⟨replaced, later⟩ := List.forall_mem_cons.mp again
    unfold putBy
    split
    · exact List.forall_mem_cons.mpr ⟨replaced, others⟩
    · exact List.forall_mem_cons.mpr ⟨first, ih others later⟩

theorem put_cons_self (k : κ) (a b : α) (t : Table κ α) : put k b ((k, a) :: t) = (k, b) :: t := by
  rw [put, putBy, beq_self_eq_true, if_pos rfl]

theorem put_cons_of_ne {k k' : κ} (other : k' ≠ k) (a a' : α) (t : Table κ α) :
    put k a ((k', a') :: t) = (k', a') :: t.put k a := by
  rw [put, putBy, if_neg (beq_eq_false_iff_ne.mpr other ▸ Bool.false_ne_true), put]

theorem put_new {k : κ} {a : α} {t : Table κ α} (fresh : ∀ e ∈ t, e.1 ≠ k) :
    t.put k a = t ++ [(k, a)] := by
  induction t with
  | nil => rfl
  | cons e rest ih =>
    obtain ⟨other, later⟩ := List.forall_mem_cons.mp fresh
    rw [put_cons_of_ne other, ih later, List.cons_append]

/-- An entry whose key is not put again stays in front. -/
theorem update_cons_of_fresh {k : κ} {a : α} {t later : Table κ α} (fresh : ∀ e ∈ later, e.1 ≠ k) :
    update ((k, a) :: t) later = (k, a) :: t.update later := by
  induction later generalizing t with
  | nil => rfl
  | cons e rest ih =>
    obtain ⟨other, later⟩ := List.forall_mem_cons.mp fresh
    show update (put e.1 e.2 ((k, a) :: t)) rest = _
    rw [put_cons_of_ne other.symm]
    exact ih later

theorem get?_put_self (k : κ) (a : α) (t : Table κ α) : (t.put k a).get? k = some a := by
  induction t with
  | nil => simp [put, putBy, get?]
  | cons e rest ih =>
    simp only [put, get?] at ih
    cases same : e.1 == k with
    | true => simp [put, putBy, get?, same]
    | false => simp [put, putBy, get?, same, ih]

theorem get?_put_of_ne {k k' : κ} (other : k' ≠ k) (a : α) (t : Table κ α) :
    (t.put k' a).get? k = t.get? k := by
  induction t with
  | nil => simp [put, putBy, get?, other]
  | cons e rest ih =>
    simp only [put, get?] at ih
    by_cases same : e.1 = k'
    · simp [put, putBy, get?, same, other]
    · have differs : (e.1 == k') = false := beq_eq_false_iff_ne.mpr same
      cases here : e.1 == k with
      | true => simp [put, putBy, get?, differs, here]
      | false => simp [put, putBy, get?, differs, here, ih]

/-- Of entries with one key, the last one counts. -/
theorem get?_update_last {k : κ} (a : α) (t before : Table κ α) {after : Table κ α}
    (last : ∀ e ∈ after, e.1 ≠ k) : (t.update (before ++ (k, a) :: after)).get? k = some a := by
  have kept (t : Table κ α) : (t.update after).get? k = t.get? k := by
    induction after generalizing t with
    | nil => rfl
    | cons e rest ih =>
      obtain ⟨other, last⟩ := List.forall_mem_cons.mp last
      exact (ih last (t.put e.1 e.2)).trans (get?_put_of_ne other e.2 t)
  have split : t.update (before ++ (k, a) :: after) = ((t.update before).put k a).update after := by
    simp only [update, List.foldl_append, List.foldl_cons]
  rw [split, kept, get?_put_self]

theorem keys_put (k : κ) (a : α) (t : Table κ α) :
    (t.put k a).map (·.1) = if t.has k then t.map (·.1) else t.map (·.1) ++ [k] := by
  induction t with
  | nil => rfl
  | cons e rest ih =>
    simp only [put] at ih
    by_cases same : e.1 = k
    · simp [put, putBy, has, same]
    · have differs : (e.1 == k) = false := beq_eq_false_iff_ne.mpr same
      simp only [put, putBy, differs, has, List.any_cons, Bool.false_or, Bool.false_eq_true, if_false,
        List.map_cons, ih]
      exact apply_ite (e.1 :: ·) _ _ _

omit [LawfulBEq κ] in
theorem has_eq_isSome (t : Table κ α) (k : κ) : t.has k = (t.get? k).isSome := by
  rw [has, get?, Option.isSome_map, List.isSome_find?]

theorem mem_keys_of_has {k : κ} {t : Table κ α} : t.has k ↔ k ∈ t.map (·.1) := by
  simp [has]

/-- A table keeps its keys apart. -/
theorem nodup_keys_put {t : Table κ α} (distinct : (t.map (·.1)).Nodup) (k : κ) (a : α) :
    ((t.put k a).map (·.1)).Nodup := by
  rw [keys_put]
  split
  · exact distinct
  · rename_i fresh
    rw [← List.concat_eq_append]
    exact distinct.concat (mt mem_keys_of_has.mpr fresh)

theorem nodup_keys_putNew {t : Table κ α} (distinct : (t.map (·.1)).Nodup) (k : κ) (a : α) :
    ((t.putNew k a).map (·.1)).Nodup := by
  unfold putNew
  split
  · exact distinct
  · exact nodup_keys_put distinct k a

theorem get?_putNew (k k' : κ) (a : α) (t : Table κ α) :
    (t.putNew k' a).get? k = (t.get? k).or (if k' == k then some a else none) := by
  unfold putNew
  by_cases same : k' = k
  · subst same
    rw [has_eq_isSome]
    cases found : t.get? k' with
    | some b => simp [found]
    | none => simp [get?_put_self]
  · rw [beq_eq_false_iff_ne.mpr same]
    split
    · simp
    · simp [get?_put_of_ne same]

/-- Of entries that may not replace others, the first under a key counts, after those that were there. -/
theorem get?_foldl_putNew (k : κ) (t entries : Table κ α) :
    (entries.foldl (fun t e => t.putNew e.1 e.2) t).get? k = (t.get? k).or (entries.get? k) := by
  induction entries generalizing t with
  | nil => rw [List.foldl_nil, get?, get?, List.find?_nil, Option.map_none, Option.or_none]
  | cons e rest ih =>
    rw [List.foldl_cons, ih, get?_putNew, Option.or_assoc]
    congr 1
    cases here : e.1 == k <;> simp [get?, here]

theorem nodup_keys_foldl_putNew {t : Table κ α} (distinct : (t.map (·.1)).Nodup) (entries : Table κ α) :
    ((entries.foldl (fun t e => t.putNew e.1 e.2) t).map (·.1)).Nodup := by
  induction entries generalizing t with
  | nil => exact distinct
  | cons e rest ih => exact ih (nodup_keys_putNew distinct e.1 e.2)

/-- Leaving out entries of a table whose keys are distinct, or changing their values, is felt under their own
keys only. -/
theorem get?_filterMap {β : Type} {t : Table κ α} (distinct : (t.map (·.1)).Nodup) (f : κ → α → Option β)
    (k : κ) : Table.get? (t.filterMap fun e => (f e.1 e.2).map (e.1, ·)) k = (t.get? k).bind (f k) := by
  induction t with
  | nil => rfl
  | cons e rest ih =>
    obtain ⟨fresh, distinct⟩ := List.nodup_cons.mp distinct
    have later := ih distinct
    by_cases same : e.1 = k
    · subst same
      have absent : Table.get? rest e.1 = none := by
        rw [← Option.not_isSome_iff_eq_none, ← has_eq_isSome]
        exact mt mem_keys_of_has.mp fresh
      rw [absent] at later
      cases kept : f e.1 e.2 with
      | none => simpa [List.filterMap_cons, kept, get?] using later
      | some b => simp [kept, get?]
    · have differs : (e.1 == k) = false := beq_eq_false_iff_ne.mpr same
      cases kept : f e.1 e.2 with
      | none => simpa [List.filterMap_cons, kept, get?, differs] using later
      | some b => simpa [List.filterMap_cons, kept, get?, differs] using later

omit [LawfulBEq κ] in
theorem get?_map_values {β : Type} (g : α → β) (t : Table κ α) (k : κ) :
    Table.get? (t.map fun e => (e.1, g e.2)) k = (t.get? k).map g := by
  rw [get?, get?, List.find?_map, Option.map_map, Option.map_map]
  rfl

/-- Changing values one by one, by their keys, can wait until all entries are put. -/
theorem map_put {β : Type} (g : κ → α → β) (k : κ) (a : α) (t : Table κ α) :
    (t.put k a).map (fun e => (e.1, g e.1 e.2)) = Table.put k (g k a) (t.map fun e => (e.1, g e.1 e.2)) := by
  induction t with
  | nil => rfl
  | cons e rest ih =>
    by_cases same : e.1 = k
    · subst same
      rw [put_cons_self, List.map_cons, List.map_cons, put_cons_self]
    · rw [put_cons_of_ne same, List.map_cons, List.map_cons, put_cons_of_ne same, ih]

theorem map_update {β : Type} (g : κ → α → β) (t later : Table κ α) :
    (t.update later).map (fun e => (e.1, g e.1 e.2)) =
      Table.update (t.map fun e => (e.1, g e.1 e.2)) (later.map fun e => (e.1, g e.1 e.2)) := by
  induction later generalizing t with
  | nil => rfl
  | cons e rest ih =>
    have step := ih (t.put e.1 e.2)
    rw [map_put] at step
    exact step

/-- Putting under one of distinct keys changes the value there and nothing else. -/
theorem put_lookup {k : κ} {a : α} {ks : List κ} (distinct : ks.Nodup) (member : k ∈ ks)
    (v : κ → Option α) (there : ∀ k' ∈ ks, (v k').isSome) :
    put k a (ks.filterMap fun k' => (v k').map (k', ·)) =
      ks.filterMap fun k' => (if k' == k then some a else v k').map (k', ·) := by
  induction ks with
  | nil => cases member
  | cons head rest ih =>
    obtain ⟨x, found⟩ := Option.isSome_iff_exists.mp (there head (by simp))
    obtain ⟨absent, distinct⟩ := List.nodup_cons.mp distinct
    by_cases same : head = k
    · subst same
      have kept : (rest.filterMap fun k' => (if k' == head then some a else v k').map (k', ·)) =
          rest.filterMap fun k' => (v k').map (k', ·) := by
        apply List.filterMap_congr
        intro k' inside
        have other : (k' == head) = false := beq_eq_false_iff_ne.mpr fun h => absent (h ▸ inside)
        simp only [other, Bool.false_eq_true, if_false]
      simp only [List.filterMap_cons, found, Option.map_some, put_cons_self, beq_self_eq_true, if_true, kept]
    · have later : k ∈ rest := by
        rcases List.mem_cons.mp member with h | h
        · exact absurd h.symm same
        · exact h
      have rest_put := ih distinct later fun k' inside => there k' (by simp [inside])
      have other : (head == k) = false := beq_eq_false_iff_ne.mpr same
      simp only [List.filterMap_cons, found, Option.map_some, put_cons_of_ne same, other, rest_put,
        Bool.false_eq_true, if_false]

theorem keys_settled (entries : List (κ × α)) :
    (settled entries).map (·.1) = (entries.map (·.1)).eraseDups := by
  have there : ∀ k ∈ (entries.map (·.1)).eraseDups, ∃ a, entries.reverse.lookup k = some a := by
    intro k member
    obtain ⟨e, inside, rfl⟩ := List.mem_map.mp (List.mem_eraseDups.mp member)
    rw [← Option.isSome_iff_exists, List.lookup_isSome_iff]
    exact ⟨e, List.mem_reverse.mpr inside, beq_self_eq_true _⟩
  unfold settled
  generalize (entries.map (·.1)).eraseDups = ks at there
  induction ks with
  | nil => rfl
  | cons k rest ih =>
    obtain ⟨a, found⟩ := there k List.mem_cons_self
    rw [List.filterMap_cons, found]
    exact congrArg (k :: ·) (ih fun k' inside => there k' (List.mem_cons_of_mem k inside))

theorem mem_of_mem_settled {entries : List (κ × α)} {e : κ × α} (member : e ∈ settled entries) :
    e ∈ entries := by
  obtain ⟨k, -, found⟩ := List.mem_filterMap.mp member
  obtain ⟨a, last, rfl⟩ := Option.map_eq_some_iff.mp found
  obtain ⟨before, after, split, -⟩ := List.lookup_eq_some_iff.mp last
  rw [← List.mem_reverse, split]
  exact List.mem_append_right before List.mem_cons_self

theorem put_settled (entries : List (κ × α)) (k : κ) (a : α) :
    (settled entries).put k a = settled (entries ++ [(k, a)]) := by
  have lookup_last (k' : κ) : (entries ++ [(k, a)]).reverse.lookup k' =
      if k' == k then some a else entries.reverse.lookup k' := by
    rw [List.reverse_append, List.reverse_singleton, List.singleton_append, List.lookup_cons]
    cases k' == k <;> rfl
  have there : ∀ k' ∈ (entries.map (·.1)).eraseDups, (entries.reverse.lookup k').isSome := by
    intro k' member
    simp only [List.mem_eraseDups, List.mem_map] at member
    obtain ⟨e, member, rfl⟩ := member
    simp only [List.lookup_isSome_iff, beq_iff_eq, List.mem_reverse]
    exact ⟨e, member, rfl⟩
  by_cases member : k ∈ entries.map (·.1)
  · have keys : ((entries ++ [(k, a)]).map (·.1)).eraseDups = (entries.map (·.1)).eraseDups := by
      rw [List.map_append, List.eraseDups_append]
      simp [List.removeAll, member]
    rw [settled, settled, keys, put_lookup (nodup_eraseDups _) (List.mem_eraseDups.mpr member) _ there]
    simp only [lookup_last]
  · have keys : ((entries ++ [(k, a)]).map (·.1)).eraseDups = (entries.map (·.1)).eraseDups ++ [k] := by
      rw [List.map_append, List.eraseDups_append]
      simp [List.removeAll, member, List.eraseDups_cons]
    have old : (settled entries) = (entries.map (·.1)).eraseDups.filterMap fun k' =>
        (if k' == k then some a else entries.reverse.lookup k').map (k', ·) := by
      apply List.filterMap_congr
      intro k' inside
      have other : (k' == k) = false :=
        beq_eq_false_iff_ne.mpr fun h => member (h ▸ List.mem_eraseDups.mp inside)
      simp only [other, Bool.false_eq_true, if_false]
    have fresh : ∀ e ∈ settled entries, e.1 ≠ k := by
      intro e inside same
      simp only [settled, List.mem_filterMap, List.mem_eraseDups, Option.map_eq_some_iff] at inside
      obtain ⟨k', inside, x, _, rfl⟩ := inside
      exact member (same ▸ inside)
    rw [put_new fresh, old, settled, keys, List.filterMap_append]
    simp only [lookup_last, List.filterMap_cons, List.filterMap_nil, beq_self_eq_true, if_true,
      Option.map_some]

theorem update_settled (before later : List (κ × α)) :
    (settled before).update later = settled (before ++ later) := by
  induction later generalizing before with
  | nil => simp [update]
  | cons e rest ih =>
    have step := ih (before ++ [e])
    rw [← put_settled, List.append_assoc, List.singleton_append] at step
    exact step

theorem ofEntries_eq_settled (entries : List (κ × α)) : ofEntries entries = settled entries :=
  update_settled [] entries

theorem put_put (k : κ) (a b : α) (t : Table κ α) : (t.put k a).put k b = t.put k b := by
  induction t with
  | nil => exact put_cons_self k a b []
  | cons e rest ih =>
    by_cases same : e.1 = k
    · subst same
      rw [put_cons_self, put_cons_self, put_cons_self]
    · rw [put_cons_of_ne same, put_cons_of_ne same, put_cons_of_ne same, ih]

/-- Putting under a key that is there takes no place, so that it may as well come first. -/
theorem put_comm_of_has {k k' : κ} (other : k' ≠ k) (a a' : α) {t : Table κ α} (there : t.has k) :
    (t.put k' a').put k a = (t.put k a).put k' a' := by
  induction t with
  | nil => cases there
  | cons e rest ih =>
    by_cases same : e.1 = k
    · subst same
      rw [put_cons_of_ne other.symm, put_cons_self, put_cons_self, put_cons_of_ne other.symm]
    · have later : Table.has rest k := by
        rw [has, List.any_cons, beq_eq_false_iff_ne.mpr same, Bool.false_or] at there
        exact there
      rw [put_cons_of_ne same]
      by_cases same' : e.1 = k'
      · subst same'
        rw [put_cons_self, put_cons_self, put_cons_of_ne same]
      · rw [put_cons_of_ne same', put_cons_of_ne same', put_cons_of_ne same, ih later]

theorem has_put (k k' : κ) (a : α) (t : Table κ α) : (t.put k' a).has k = (t.has k || k' == k) := by
  by_cases same : k' = k
  · subst same
    rw [has_eq_isSome, get?_put_self, beq_self_eq_true, Bool.or_true, Option.isSome_some]
  · rw [has_eq_isSome, get?_put_of_ne same, ← has_eq_isSome, beq_eq_false_iff_ne.mpr same, Bool.or_false]

theorem has_update (k : κ) (t later : Table κ α) : (t.update later).has k = (t.has k || later.has k) := by
  induction later generalizing t with
  | nil => exact (Bool.or_false _).symm
  | cons e rest ih =>
    have step := ih (t.put e.1 e.2)
    rw [has_put, Bool.or_assoc] at step
    exact step

theorem put_update_of_fresh {k : κ} (a : α) {t later : Table κ α} (there : t.has k)
    (fresh : ∀ e ∈ later, e.1 ≠ k) : (t.update later).put k a = (t.put k a).update later := by
  induction later generalizing t with
  | nil => rfl
  | cons e rest ih =>
    obtain ⟨other, fresh⟩ := List.forall_mem_cons.mp fresh
    have step : (t.put k a).update (e :: rest) = ((t.put e.1 e.2).put k a).update rest := by
      rw [put_comm_of_has other a e.2 there]
      rfl
    rw [step]
    exact ih (by rw [has_put, there, Bool.true_or]) fresh

theorem update_put {t : Table κ α} {more : Table κ α} (distinct : (more.map (·.1)).Nodup) (k : κ) (a : α) :
    t.update (more.put k a) = (t.update more).put k a := by
  induction more generalizing t with
  | nil => rfl
  | cons e rest ih =>
    obtain ⟨fresh, distinct⟩ := List.nodup_cons.mp distinct
    by_cases same : e.1 = k
    · subst same
      have later : ∀ e' ∈ rest, e'.1 ≠ e.1 := fun e' mem same => fresh (List.mem_map.mpr ⟨e', mem, same⟩)
      calc t.update (Table.put e.1 a (e :: rest)) = (t.put e.1 a).update rest := by
            rw [put_cons_self]
            rfl
        _ = ((t.put e.1 e.2).put e.1 a).update rest := by rw [put_put]
        _ = ((t.put e.1 e.2).update rest).put e.1 a :=
            (put_update_of_fresh a (by rw [has_put, beq_self_eq_true, Bool.or_true]) later).symm
    · rw [put_cons_of_ne same]
      exact ih distinct

/-- Putting the entries of one table and then those of another puts those of both. -/
theorem update_update (t : Table κ α) {more : Table κ α} (distinct : (more.map (·.1)).Nodup)
    (later : Table κ α) : (t.update more).update later = t.update (more.update later) := by
  induction later generalizing more with
  | nil => rfl
  | cons e rest ih =>
    have step : (t.update more).update (e :: rest) = (t.update (more.put e.1 e.2)).update rest := by
      rw [update_put distinct]
      rfl
    rw [step]
    exact ih (nodup_keys_put distinct e.1 e.2)

/-- A table whose keys are distinct has nothing left to settle. -/
theorem settled_of_nodup {t : Table κ α} (distinct : (t.map (·.1)).Nodup) : settled t = t := by
  rw [← ofEntries_eq_settled]
  induction t with
  | nil => rfl
  | cons e rest ih =>
    obtain ⟨fresh, distinct⟩ := List.nodup_cons.mp distinct
    have later : ∀ e' ∈ rest, e'.1 ≠ e.1 := fun e' mem same => fresh (List.mem_map.mpr ⟨e', mem, same⟩)
    exact (update_cons_of_fresh later).trans (congrArg (e :: ·) (ih distinct))

theorem putNew_eq_append (k : κ) (a : α) (t : Table κ α) :
    t.putNew k a = t ++ if t.has k then [] else [(k, a)] := by
  unfold putNew
  split
  · rw [List.append_nil]
  · rename_i absent
    exact put_new fun e mem same => absent (List.any_eq_true.mpr ⟨e, mem, beq_iff_eq.mpr same⟩)

end PageHarvest.Table

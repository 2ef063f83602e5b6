import PageHarvest.Proofs.Data.Display
import PageHarvest.Proofs.Data.Order
import PageHarvest.Proofs.Failure
import PageHarvest.Query.Definition

/-!
What escapes the building of a query. Arguments are rejected with construction failures, unless the
message is to show a value that cannot be shown or to list keys that have no order.
-/
namespace PageHarvest
variable {α C : Type}

theorem isConstruction_unshown (u : Value.Unshown) : (Cause.unshown u).isConstruction = false := by
  cases u <;> rfl

theorem escapes_unshown_iff (u : Value.Unshown) (f : Failure) :
    Escapes (.error (Cause.unshown u) : Except Failure α) f ↔ f = Cause.unshown u := by
  rw [escapes_error_iff]
  exact ⟨fun escapes => escapes.1.symm, fun same => ⟨same.symm, isConstruction_unshown u⟩⟩

variable [Stack]

/-- A failure that is to show a value gives way to the one of not showing it. -/
theorem escapes_showing_iff (v : Value) {cause : Cause} (construction : cause.isConstruction = true)
    (f : Failure) : Escapes (.error (Cause.showing v cause) : Except Failure α) f ↔
      ∃ u, v.unshown? = some u ∧ f = Cause.unshown u := by
  unfold Cause.showing
  cases v.unshown? with
  | some u => simp only [escapes_unshown_iff, Option.some.injEq, exists_eq_left']
  | none => simp [construction]

/-! Fields -/

namespace Field

omit [Stack] in
theorem not_escapes_ofDefinition (name : String) (v : Value) (f : Failure) :
    ¬ Escapes (ofDefinition name v) f := by
  have rejected : ¬ Escapes (.error malformed : Except Failure Field) f := fun escapes =>
    nomatch ((escapes_error_iff _ _).mp escapes).2
  unfold ofDefinition
  repeat' split
  all_goals first | exact rejected | exact not_escapes_ok _ f

/-- The name of a field is shown only when its definition can be read. -/
theorem escapes_ofEntry_iff (e : Value × Value) (f : Failure) : Escapes (ofEntry e) f ↔
    (∃ field, ofDefinition e.1.plain e.2 = .ok field) ∧
      ∃ u, e.1.unshown? = some u ∧ f = Cause.unshown u := by
  unfold ofEntry
  rw [escapes_bind_iff]
  simp only [not_escapes_ofDefinition, false_or]
  cases e.1.unshown? with
  | some u => simp only [escapes_unshown_iff, Option.some.injEq, exists_eq_left', exists_and_right]
  | none => simp

/-- Of fields that can be read, the name of the first that cannot be shown escapes. -/
theorem escapes_ofMapping_iff (v : Value) (f : Failure) : Escapes (ofMapping v) f ↔
    ∃ before e after field u, v = .map (before ++ e :: after) ∧
      (∀ b ∈ before, ∃ g, ofEntry b = .ok g) ∧ ofDefinition e.1.plain e.2 = .ok field ∧
      e.1.unshown? = some u ∧ f = Cause.unshown u := by
  cases v with
  | map m =>
    simp only [ofMapping, escapes_mapM_iff, escapes_ofEntry_iff, Value.map.injEq]
    constructor
    · rintro ⟨before, e, after, split, named, ⟨field, read⟩, u, hidden, same⟩
      exact ⟨before, e, after, field, u, split, named, read, hidden, same⟩
    · rintro ⟨before, e, after, field, u, split, named, read, hidden, same⟩
      exact ⟨before, e, after, split, named, ⟨field, read⟩, u, hidden, same⟩
  | _ => simp [ofMapping, malformed, Cause.isConstruction]

end Field

namespace Query

/-! Arguments of the builder -/

omit [Stack] in
theorem not_escapes_requireUrl (v : Value) (f : Failure) : ¬ Escapes (requireUrl v) f := by
  cases v with
  | text url =>
    simp only [requireUrl]
    split <;> simp [Cause.isConstruction]
  | _ => simp [requireUrl, Cause.isConstruction]

theorem escapes_requireSelector_iff (v : Value) (f : Failure) :
    Escapes (requireSelector v) f ↔ ∃ u, v.unshown? = some u ∧ f = Cause.unshown u := by
  cases v with
  | text selector =>
    simp only [requireSelector]
    split
    · exact escapes_showing_iff _ rfl f
    · simp
  | _ => exact escapes_showing_iff _ rfl f

theorem escapes_requireTimeout_iff (v : Value) (f : Failure) : Escapes (requireTimeout v) f ↔
    (∀ n : Nat, v ≠ .int n) ∧ ∃ u, v.unshown? = some u ∧ f = Cause.unshown u := by
  cases v with
  | null => simp [requireTimeout]
  | int n =>
    simp only [requireTimeout]
    by_cases negative : n < 0
    · have other (k : Nat) : Value.int n ≠ .int k := by
        rintro ⟨⟩
        omega
      simp only [negative, if_true, other, ne_eq, not_false_eq_true, implies_true, true_and]
      exact escapes_showing_iff _ rfl f
    · obtain ⟨k, rfl⟩ := Int.eq_ofNat_of_zero_le (Int.not_lt.mp negative)
      simp only [negative, if_false, not_escapes_ok, false_iff]
      exact fun escapes => escapes.1 k rfl
  | _ =>
    simp only [ne_eq, reduceCtorEq, not_false_eq_true, implies_true, true_and]
    exact escapes_showing_iff _ rfl f

theorem escapes_requireMethod_iff (v : Value) (f : Failure) :
    Escapes (requireMethod v) f ↔ ∃ u, v.unshown? = some u ∧ f = Cause.unshown u := by
  cases v with
  | text m =>
    simp only [requireMethod]
    split <;> simp [Cause.isConstruction]
  | _ => exact escapes_showing_iff _ rfl f

theorem escapes_startingAt_iff (url method postData : Value) (f : Failure) :
    Escapes (startingAt url method postData : Except Failure (Query C)) f ↔
      (∃ u, requireUrl url = .ok u) ∧ ∃ u, method.unshown? = some u ∧ f = Cause.unshown u := by
  simp [startingAt, escapes_bind_iff, not_escapes_requireUrl, escapes_requireMethod_iff]

/-! Calls of the builder -/

variable (q : Query C)

omit [Stack] in
theorem not_escapes_go (url : Value) (f : Failure) : ¬ Escapes (q.go url) f := by
  simp [go, not_escapes_requireUrl]

theorem escapes_waitFor_iff (selector timeoutMs : Value) (f : Failure) :
    Escapes (q.waitFor selector timeoutMs) f ↔
      (∃ u, selector.unshown? = some u ∧ f = Cause.unshown u) ∨
      (∃ s, requireSelector selector = .ok s) ∧ (∀ n : Nat, timeoutMs ≠ .int n) ∧
        ∃ u, timeoutMs.unshown? = some u ∧ f = Cause.unshown u := by
  simp only [waitFor, escapes_bind_iff, escapes_requireSelector_iff, escapes_requireTimeout_iff,
    not_escapes_pure, and_false, exists_false, or_false, exists_and_right]

theorem escapes_groupBy_iff (selector : Value) (f : Failure) :
    Escapes (q.groupBy selector) f ↔ ∃ u, selector.unshown? = some u ∧ f = Cause.unshown u := by
  simp [groupBy, escapes_requireSelector_iff]

/-- That a scope is selected from twice is found after its fields have been read. -/
theorem escapes_select_iff (fields : Value) (f : Failure) :
    Escapes (q.select fields) f ↔ Escapes (Field.ofMapping fields) f := by
  have checked (read : List Field) :
      ¬ Escapes (if selectedIn q.steps.reverse then .error Field.malformed
        else pure (q.append (.select read))) f := by
    split <;> simp [Field.malformed, Cause.isConstruction]
  simp only [select, escapes_bind_iff, checked, and_false, exists_false, or_false]

/-! Step keys of a definition -/

omit [Stack] in
theorem mem_choices_iff {m : Mapping} {key : String} {v : Value} :
    (key, v) ∈ choices m ↔ key ∈ stepKeys ∧ m.field? key = some v := by
  simp [choices, List.mem_filterMap, Option.map_eq_some_iff]

omit [Stack] in
theorem choices_key {m : Mapping} {key : String} {v : Value} (only : choices m = [(key, v)]) :
    key ∈ stepKeys :=
  (mem_choices_iff.mp (only ▸ List.mem_singleton_self _)).1

theorem applyStep_chosen {m : Mapping} {key : String} {v : Value} (only : choices m = [(key, v)])
    (q : Query C) (index : Nat) : q.applyStep index (.map m) = q.applyKey m v key := by
  simp only [applyStep, only]

theorem applyStep_ambiguous {m : Mapping} (ambiguous : (choices m).length ≠ 1) (q : Query C)
    (index : Nat) : q.applyStep index (.map m) = .error (ambiguousStep index m) := by
  unfold applyStep
  dsimp only
  split
  · rename_i only
    rw [only] at ambiguous
    exact absurd rfl ambiguous
  · rfl

end Query
end PageHarvest

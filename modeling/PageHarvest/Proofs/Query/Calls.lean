import PageHarvest.Proofs.Data.Display
import PageHarvest.Proofs.Failure
import PageHarvest.Query.Builder

/-!
Queries by the calls that build them. A call that is accepted appends exactly one step; the lemmas say
which one, and for which arguments.
-/
namespace PageHarvest

def NonBlank (s : String) : Prop :=
  ∃ c ∈ s.toList, Text.isBlank c = false

theorem isBlankText_eq_false_iff (s : String) : Text.isBlankText s = false ↔ NonBlank s := by
  simp [Text.isBlankText, NonBlank]

/-- No timeout of its own, or a count of milliseconds. -/
inductive IsTimeout : Value → Prop where
  | absent : IsTimeout .null
  | count (n : Nat) : IsTimeout (.int n)

/-- Values as callers can have them: the keys of a mapping and the items of a set can be keys, and no
two of them are the same. -/
inductive Value.Proper : Value → Prop where
  | null : Proper .null
  | bool (b) : Proper (.bool b)
  | int (n) : Proper (.int n)
  | float (x) : Proper (.float x)
  | text (s) : Proper (.text s)
  | bytes (bs) : Proper (.bytes bs)
  | date (d) : Proper (.date d)
  | moment (t) : Proper (.moment t)
  | object (shown) : Proper (.object shown)
  | list {items} (inside : ∀ v ∈ items, Proper v) : Proper (.list items)
  | tuple {items} (inside : ∀ v ∈ items, Proper v) : Proper (.tuple items)
  | set {items} (inside : ∀ v ∈ items, Proper v) (keys : ∀ v ∈ items, v.isKey = true)
      (distinct : items.Pairwise fun a b => a.sameKey b = false) : Proper (.set items)
  | map {m} (named : ∀ e ∈ m, Proper e.1) (inside : ∀ e ∈ m, Proper e.2)
      (keys : ∀ e ∈ m, e.1.isKey = true)
      (distinct : m.Pairwise fun a b => a.1.sameKey b.1 = false) : Proper (.map m)

/-- A mapping whose keys are different texts. -/
theorem Value.proper_of_named {ι : Type} (is : List ι) (name : ι → String) (value : ι → Value)
    (distinct : (is.map name).Nodup) (inside : ∀ i ∈ is, (value i).Proper) :
    (Value.map (is.map fun i => (.text (name i), value i))).Proper := by
  refine .map ?_ ?_ ?_ ?_
  · intro e mem
    obtain ⟨i, -, rfl⟩ := List.mem_map.mp mem
    exact .text (name i)
  · intro e mem
    obtain ⟨i, member, rfl⟩ := List.mem_map.mp mem
    exact inside i member
  · intro e mem
    obtain ⟨i, -, rfl⟩ := List.mem_map.mp mem
    rfl
  · rw [List.pairwise_map]
    refine (List.pairwise_map.mp distinct).imp fun {i j} different => ?_
    exact beq_eq_false_iff_ne.mpr different

theorem IsTimeout.proper {v : Value} (timeout : IsTimeout v) : v.Proper := by
  cases timeout with
  | absent => exact .null
  | count n => exact .int n

namespace Query
variable [Stack] {C : Type}

/-- A call of the builder, with what the caller passes. -/
inductive Call (C : Type) where
  | go (url : Value)
  | waitFor (selector timeoutMs : Value)
  | groupBy (selector : Value)
  | select (fields : Value)
  | eval (argument : EvalArgument C)

namespace Call

def apply (q : Query C) : Call C → Except Failure (Query C)
  | go url => q.go url
  | waitFor selector timeoutMs => q.waitFor selector timeoutMs
  | groupBy selector => q.groupBy selector
  | select fields => q.select fields
  | eval argument => q.eval argument

/-- The values that a call is given. -/
def arguments : Call C → List Value
  | go url => [url]
  | waitFor selector timeoutMs => [selector, timeoutMs]
  | groupBy selector => [selector]
  | select fields => [fields]
  | eval _ => []

end Call

/-- The query after calls one after another, unless one of them is rejected. -/
def grow (q : Query C) (calls : List (Call C)) : Except Failure (Query C) :=
  calls.foldlM Call.apply q

/-- The query of a start and the calls after it. -/
def build (url method postData : Value) (calls : List (Call C)) : Except Failure (Query C) := do
  let q ← startingAt url method postData
  q.grow calls

omit [Stack] in
@[simp]
theorem steps_append (q : Query C) (s : Step C) : (q.append s).steps = q.steps ++ [s] := rfl

@[simp]
theorem grow_nil (q : Query C) : q.grow [] = .ok q := rfl

theorem grow_cons (q : Query C) (c : Call C) (calls : List (Call C)) :
    q.grow (c :: calls) = (c.apply q >>= fun q => q.grow calls) := rfl

/-! What the arguments are checked for. -/

omit [Stack] in
theorem nonBlank_guard_iff {s r : String} {e : Failure} :
    (if Text.isBlankText s then .error e else .ok s) = Except.ok r ↔ Value.text s = .text r ∧ NonBlank r := by
  cases blank : Text.isBlankText s with
  | true =>
    have none : ¬ NonBlank s := by
      rw [← isBlankText_eq_false_iff, blank]
      exact Bool.noConfusion
    simp only [if_true, reduceCtorEq, Value.text.injEq, false_iff]
    rintro ⟨rfl, nonblank⟩
    exact none nonblank
  | false =>
    have nonblank := (isBlankText_eq_false_iff s).mp blank
    simp only [Bool.false_eq_true, if_false, Except.ok.injEq, Value.text.injEq]
    constructor
    · rintro rfl
      exact ⟨rfl, nonblank⟩
    · exact And.left

omit [Stack] in
theorem requireUrl_ok_iff {v : Value} {url : String} :
    requireUrl v = .ok url ↔ v = .text url ∧ NonBlank url := by
  cases v with
  | text s => exact nonBlank_guard_iff
  | _ => simp [requireUrl]

theorem requireSelector_ok_iff {v : Value} {selector : String} :
    requireSelector v = .ok selector ↔ v = .text selector ∧ NonBlank selector := by
  cases v with
  | text s => exact nonBlank_guard_iff
  | _ => simp [requireSelector]

theorem requireTimeout_ok_iff {v t : Value} : requireTimeout v = .ok t ↔ t = v ∧ IsTimeout v := by
  cases v with
  | null =>
    simp only [requireTimeout, Except.ok.injEq]
    exact ⟨fun same => ⟨same.symm, .absent⟩, fun given => given.1.symm⟩
  | int n =>
    by_cases negative : n < 0
    · simp only [requireTimeout, negative, if_true, reduceCtorEq, false_iff]
      rintro ⟨-, timeout⟩
      cases timeout with
      | count k => omega
    · obtain ⟨k, rfl⟩ := Int.eq_ofNat_of_zero_le (Int.not_lt.mp negative)
      simp only [requireTimeout, negative, if_false, Except.ok.injEq]
      exact ⟨fun same => ⟨same.symm, .count k⟩, fun given => given.1.symm⟩
  | _ =>
    simp only [requireTimeout, reduceCtorEq, false_iff]
    rintro ⟨-, timeout⟩
    cases timeout

theorem requireMethod_ok_iff {v : Value} {m : String} :
    requireMethod v = .ok m ↔ v = .text m ∧ (m = "GET" ∨ m = "POST") := by
  cases v with
  | text s =>
    by_cases allowed : s = "GET" ∨ s = "POST"
    · have contained : Visit.methods.contains s = true := by
        simpa [Visit.methods] using allowed
      simp only [requireMethod, contained, if_true, Except.ok.injEq, Value.text.injEq]
      constructor
      · rintro rfl
        exact ⟨rfl, allowed⟩
      · exact And.left
    · have missing : Visit.methods.contains s = false := by
        simpa [Visit.methods] using allowed
      simp only [requireMethod, missing, Bool.false_eq_true, if_false, reduceCtorEq, Value.text.injEq,
        false_iff]
      rintro ⟨rfl, either⟩
      exact allowed either
  | _ => simp [requireMethod]

/-! What accepted calls build. -/

theorem startingAt_ok_iff {url method postData : Value} {q : Query C} :
    startingAt url method postData = .ok q ↔ ∃ u m, url = .text u ∧ NonBlank u ∧
      method = .text m ∧ (m = "GET" ∨ m = "POST") ∧ q = ⟨⟨u, m, postData⟩, []⟩ := by
  simp only [startingAt, bind_ok_iff, requireUrl_ok_iff, requireMethod_ok_iff]
  constructor
  · rintro ⟨u, ⟨rfl, nonblank⟩, m, ⟨rfl, allowed⟩, built⟩
    cases built
    exact ⟨u, m, rfl, nonblank, rfl, allowed, rfl⟩
  · rintro ⟨u, m, rfl, nonblank, rfl, allowed, rfl⟩
    exact ⟨u, ⟨rfl, nonblank⟩, m, ⟨rfl, allowed⟩, rfl⟩

/-- The step that a call adds to a query that accepts it. -/
inductive Appends (q : Query C) : Call C → Step C → Prop where
  | go {url} (nonblank : NonBlank url) : Appends q (.go (.text url)) (.navigate ⟨url, "GET", .null⟩)
  | waitFor {selector timeoutMs} (nonblank : NonBlank selector) (timeout : IsTimeout timeoutMs) :
      Appends q (.waitFor (.text selector) timeoutMs) (.waitFor selector timeoutMs)
  | groupBy {selector} (nonblank : NonBlank selector) :
      Appends q (.groupBy (.text selector)) (.groupBy selector)
  | select {v fields} (read : Field.ofMapping v = .ok fields)
      (fresh : selectedIn q.steps.reverse = false) : Appends q (.select v) (.select fields)
  | eval (c) : Appends q (.eval (.callback c)) (.eval c)

theorem apply_ok_iff {q q' : Query C} {c : Call C} :
    c.apply q = .ok q' ↔ ∃ s, Appends q c s ∧ q' = q.append s := by
  cases c with
  | go url =>
    simp only [Call.apply, Query.go, bind_ok_iff, requireUrl_ok_iff]
    constructor
    · rintro ⟨u, ⟨rfl, nonblank⟩, built⟩
      cases built
      exact ⟨_, .go nonblank, rfl⟩
    · rintro ⟨s, appends, rfl⟩
      cases appends with
      | @go url nonblank => exact ⟨url, ⟨rfl, nonblank⟩, rfl⟩
  | waitFor selector timeoutMs =>
    simp only [Call.apply, Query.waitFor, bind_ok_iff, requireSelector_ok_iff, requireTimeout_ok_iff]
    constructor
    · rintro ⟨s, ⟨rfl, nonblank⟩, t, ⟨rfl, timeout⟩, built⟩
      cases built
      exact ⟨_, .waitFor nonblank timeout, rfl⟩
    · rintro ⟨s, appends, rfl⟩
      cases appends with
      | @waitFor selector _ nonblank timeout =>
        exact ⟨selector, ⟨rfl, nonblank⟩, timeoutMs, ⟨rfl, timeout⟩, rfl⟩
  | groupBy selector =>
    simp only [Call.apply, Query.groupBy, bind_ok_iff, requireSelector_ok_iff]
    constructor
    · rintro ⟨s, ⟨rfl, nonblank⟩, built⟩
      cases built
      exact ⟨_, .groupBy nonblank, rfl⟩
    · rintro ⟨s, appends, rfl⟩
      cases appends with
      | @groupBy selector nonblank => exact ⟨selector, ⟨rfl, nonblank⟩, rfl⟩
  | select v =>
    simp only [Call.apply, Query.select, bind_ok_iff]
    constructor
    · rintro ⟨fields, read, built⟩
      split at built
      · cases built
      · rename_i fresh
        cases built
        exact ⟨_, .select read (Bool.eq_false_iff.mpr fresh), rfl⟩
    · rintro ⟨s, appends, rfl⟩
      cases appends with
      | @select _ fields read fresh =>
        refine ⟨fields, read, ?_⟩
        rw [fresh]
        rfl
  | eval argument =>
    cases argument with
    | callback c =>
      constructor
      · intro built
        cases built
        exact ⟨_, .eval c, rfl⟩
      · rintro ⟨s, appends, rfl⟩
        cases appends
        rfl
    | data =>
      constructor
      · rintro ⟨⟩
      · rintro ⟨s, appends, -⟩
        cases appends

/-- What holds of every start and is kept by every step that a call appends holds of all queries. -/
theorem build_induction {motive : Query C → Prop}
    (start : ∀ {url method : String} (postData : Value), NonBlank url → method = "GET" ∨ method = "POST" →
      motive ⟨⟨url, method, postData⟩, []⟩)
    (step : ∀ {q c s}, motive q → Appends q c s → motive (q.append s))
    {url method postData : Value} {calls : List (Call C)} {q : Query C}
    (built : build url method postData calls = .ok q) : motive q := by
  obtain ⟨q₀, started, grown⟩ := bind_ok_iff.mp built
  obtain ⟨u, m, -, nonblank, -, allowed, rfl⟩ := startingAt_ok_iff.mp started
  have begun := start postData nonblank allowed
  clear started built
  generalize (⟨⟨u, m, postData⟩, []⟩ : Query C) = q₀ at begun grown
  induction calls generalizing q₀ with
  | nil =>
    cases grown
    exact begun
  | cons c rest ih =>
    rw [grow_cons] at grown
    obtain ⟨q₁, applied, grown⟩ := bind_ok_iff.mp grown
    obtain ⟨s, appends, rfl⟩ := apply_ok_iff.mp applied
    exact ih _ (step begun appends) grown

end Query
end PageHarvest

import PageHarvest.Proofs.Failure
import PageHarvest.Proofs.Replay.Reports
import PageHarvest.Static.Page

/-!
The contract of callbacks: a page together with a sequence of records goes on, and all else is refused at
its step. The step only asks what it gets for results whether it is there and how many members it has, so
that the contract is kept exactly where that tells right from wrong.
-/
namespace PageHarvest
variable {W P H C : Type}

namespace Results

def isNull : Results → Bool
  | .absent | .data .null => true
  | _ => false

/-- The members of a list or a tuple. -/
def sequence? : Results → Option (List Item)
  | .items own => some own
  | .data (.list vs) | .data (.tuple vs) => some (vs.map Item.ofValue)
  | _ => none

end Results

namespace Handler

def unpaired : Failure :=
  Cause.invalidPipeline "eval callback must return a (page, results) pair"

def uncounted (v : Value) : Failure :=
  Cause.badType ("object of type '" ++ v.kindName ++ "' has no len()")

theorem resultItems_of_sequence {results : Results} {items : List Item}
    (listed : results.sequence? = some items) : resultItems results = .ok items := by
  cases results with
  | absent => cases listed
  | items own =>
    cases listed
    rfl
  | data v =>
    cases v with
    | list vs | tuple vs =>
      cases listed
      rfl
    | _ => cases listed

/-- Results are refused if there are none, and fail otherwise only if they cannot be counted. -/
theorem resultItems_error_iff (results : Results) (f : Failure) : resultItems results = .error f ↔
    results.isNull = true ∧ f = unpaired ∨
    results.isNull = false ∧ ∃ v, results = .data v ∧ v.elements? = none ∧ f = uncounted v := by
  cases results with
  | absent => simp [resultItems, Results.isNull, unpaired, eq_comm]
  | items own => simp [resultItems, Results.isNull]
  | data v =>
    cases v with
    | null => simp [resultItems, Results.isNull, unpaired, eq_comm]
    | _ => simp [resultItems, Results.isNull, Value.elements?, uncounted, eq_comm]

theorem unpaired_ne_uncounted (v : Value) : unpaired ≠ uncounted v := by
  simp [unpaired, uncounted]

end Handler

namespace Answer
open Handler
open Replay (IsRecord)

/-- What a step makes of an answer. -/
def judged : Answer P → Except Failure (P × List Item)
  | .other => .error unpaired
  | .pair page results => (resultItems results).map (page, ·)

/-- What the contract lets pass. -/
inductive Gives : Answer P → P → List Item → Prop
  | pair {page results items} (listed : results.sequence? = some items)
      (records : ∀ i ∈ items, IsRecord i) : Gives (.pair page results) page items

/-- The answer is no pair, or has nothing in the place of results, or a sequence of records. -/
def Clear (answer : Answer P) : Prop :=
  ∀ page results, answer = .pair page results →
    results.isNull = true ∨ ∃ items, results.sequence? = some items ∧ ∀ i ∈ items, IsRecord i

theorem Gives.judged {answer : Answer P} {page : P} {items : List Item}
    (gives : answer.Gives page items) : answer.judged = .ok (page, items) := by
  obtain ⟨listed, -⟩ := gives
  rw [Answer.judged, resultItems_of_sequence listed]
  rfl

theorem judged_error_iff (answer : Answer P) (f : Failure) : answer.judged = .error f ↔
    answer = .other ∧ f = unpaired ∨
    ∃ page results, answer = .pair page results ∧ resultItems results = .error f := by
  cases answer with
  | other => simp [judged, eq_comm]
  | pair page results => cases made : resultItems results <;> simp [judged, made, Except.map]

theorem judged_unpaired_iff (answer : Answer P) : answer.judged = .error unpaired ↔
    ∀ page results, answer = .pair page results → results.isNull = true := by
  rw [judged_error_iff]
  constructor
  · rintro (⟨rfl, -⟩ | ⟨page, results, rfl, failed⟩) _ _ pair
    · cases pair
    · cases pair
      rcases (resultItems_error_iff results unpaired).mp failed with ⟨null, -⟩ | ⟨-, v, -, -, same⟩
      · exact null
      · exact absurd same (unpaired_ne_uncounted v)
  · intro null
    cases answer with
    | other => exact .inl ⟨rfl, rfl⟩
    | pair page results =>
      have failed := (resultItems_error_iff results unpaired).mpr (.inl ⟨null page results rfl, rfl⟩)
      exact .inr ⟨page, results, rfl, failed⟩

theorem Clear.of_judged {answer : Answer P} (judged : answer.judged = .error unpaired) : answer.Clear :=
  fun page results pair => .inl (answer.judged_unpaired_iff.mp judged page results pair)

end Answer

namespace Replay
open Handler

/-- The state after a callback has given a page and items. -/
def answered (h : Host W P H C) (state : ReplayState P H) (page : P) (items : List Item) :
    ReplayState P H :=
  { state with page, scope := if h.samePage page state.page then state.scope else .document,
               results := items }

theorem evalStep_runOn {h : Host W P H C} {callback : C} {state : ReplayState P H} {w w' : W}
    {answer : Answer P} (called : (h.call callback state.page state.results).runOn w = (.ok answer, w')) :
    ∃ w'', (evalStep h callback state).runOn w =
      (answer.judged.map fun (page, items) => answered h state page items, w'') := by
  unfold evalStep
  rw [Act.runOn_bind, called]
  cases answer with
  | other => exact ⟨w', rfl⟩
  | pair page results =>
    dsimp only
    rw [Act.runOn_bind, Act.runOn_ofExcept, Answer.judged]
    cases resultItems results with
    | error f => exact ⟨w', rfl⟩
    | ok items => exact ⟨_, rfl⟩

section Run
variable (h : Host W P H C) (d : Defaults) (steps : List (Step C)) (start : ReplayState P H) (w : W) (k : Nat)

/-- A replay has come to step `k`, whose callback gives `answer`. -/
structure Called (state : ReplayState P H) (answer : Answer P) : Prop where
  called : ∃ callback w₁ w₂, steps[k]? = some (.eval callback) ∧
    (runSteps h d Handler.standard 0 (steps.take k) start).runOn w = (.ok state, w₁) ∧
    (h.call callback state.page state.results).runOn (h.emit (startEvent k (.eval callback)) w₁) =
      (.ok answer, w₂)

/-- Step `k` succeeds after the steps before it, and comes to `next`. -/
def Passes (next : ReplayState P H) : Prop :=
  ∃ w', (runSteps h d Handler.standard 0 (steps.take (k + 1)) start).runOn w = (.ok next, w')

/-- The contract is kept at step `k`, to which a replay has come in `state` and whose callback gives
`answer`. -/
structure Enforced (state : ReplayState P H) (answer : Answer P) : Prop where
  accepts : ∀ page items, answer.Gives page items →
    Passes h d steps start w k (answered h state page items)
  refuses : (∀ page items, ¬ answer.Gives page items) →
    ∃ w', Raises h d Handler.standard steps start w k unpaired w'

/-- How a step gets an answer wrong: it raises another failure, or it goes on with what is no sequence of
records, which is found out when the results are handed over, if at all. -/
inductive Missed (state : ReplayState P H) (answer : Answer P) : Prop where
  | raised {page v} (pair : answer = .pair page (.data v)) (uncountable : v.elements? = none)
      (raises : ∃ w', Raises h d Handler.standard steps start w k (uncounted v) w')
  | passed {page items} (malformed : ∀ page items, ¬ answer.Gives page items)
      (passes : Passes h d steps start w k (answered h state page items))
      (late : ∀ f, items.mapM handOver = .error f → f.name = "TypeError" ∨ f.name = "ValueError")

end Run

variable {h : Host W P H C} {d : Defaults} {steps : List (Step C)} {start state next : ReplayState P H}
  {w : W} {k : Nat} {answer : Answer P} {f : Failure}

theorem Called.outcome (called : Called h d steps start w k state answer) :
    ∃ callback w₁ w₂, steps[k]? = some (.eval callback) ∧
      (runSteps h d Handler.standard 0 (steps.take k) start).runOn w = (.ok state, w₁) ∧
      (runStep h d Handler.standard k (.eval callback) state).runOn w₁ =
        (answer.judged.map fun (page, items) => answered h state page items, w₂) := by
  obtain ⟨callback, w₁, w₂, here, before, answers⟩ := called.called
  obtain ⟨w₃, handled⟩ := evalStep_runOn answers
  exact ⟨callback, w₁, _, here, before, runStep_runOn rfl handled⟩

theorem Called.raises (called : Called h d steps start w k state answer)
    (judged : answer.judged = .error f) :
    ∃ w', Raises h d Handler.standard steps start w k f w' := by
  obtain ⟨callback, w₁, w₂, here, before, step⟩ := called.outcome
  rw [judged] at step
  exact ⟨w₂, ⟨.eval callback, state, w₁, here, before, step⟩⟩

theorem Called.passes (called : Called h d steps start w k state answer) {page : P} {items : List Item}
    (judged : answer.judged = .ok (page, items)) :
    Passes h d steps start w k (answered h state page items) := by
  obtain ⟨callback, w₁, w₂, here, before, step⟩ := called.outcome
  rw [judged] at step
  obtain ⟨inside, there⟩ := List.getElem?_eq_some_iff.mp here
  have index : 0 + (steps.take k).length = k := by
    rw [Nat.zero_add, List.length_take_of_le (Nat.le_of_lt inside)]
  refine ⟨w₂, ?_⟩
  rw [List.take_succ_eq_append_getElem inside, there, runSteps_append, Act.runOn_bind, before]
  dsimp only
  rw [index, runSteps_singleton]
  exact step

/-- A step that raises does not succeed. -/
theorem Raises.not_passes {w' : W} (raises : Raises h d Handler.standard steps start w k f w') :
    ¬ Passes h d steps start w k next := by
  rintro ⟨w'', passed⟩
  rw [(raises.take (Nat.lt_succ_self k)).runSteps] at passed
  cases passed

theorem Called.judged_of_raises (called : Called h d steps start w k state answer) {w' : W}
    (raises : Raises h d Handler.standard steps start w k f w') : answer.judged = .error f := by
  cases judged : answer.judged with
  | ok given =>
    exact absurd (called.passes judged) raises.not_passes
  | error f' =>
    obtain ⟨w'', other⟩ := called.raises judged
    have same := raises.runSteps.symm.trans other.runSteps
    cases same
    rfl

theorem handOver_error {i : Item} (failed : handOver i = .error f) :
    f.name = "TypeError" ∨ f.name = "ValueError" := by
  have entry (n : Nat) (v : Value) (unpaired : pairEntry n v = .error f) :
      f.name = "TypeError" ∨ f.name = "ValueError" := by
    unfold pairEntry at unpaired
    split at unpaired
    · split at unpaired
      · cases unpaired
      · cases unpaired
        exact .inl rfl
    · cases unpaired
      exact .inr rfl
    · cases unpaired
      exact .inl rfl
  unfold handOver at failed
  split at failed
  · cases failed
  · cases failed
  · split at failed
    · cases failed
      exact .inl rfl
    · rename_i items _
      rcases bind_error_iff.mp failed with made | ⟨entries, -, never⟩
      · obtain ⟨⟨item, n⟩, -, here⟩ := exists_of_mapM_error made
        exact entry n item here
      · cases never

theorem Called.enforced_iff (called : Called h d steps start w k state answer) :
    Enforced h d steps start w k state answer ↔ answer.Clear := by
  constructor
  · intro enforced page results pair
    by_cases gives : ∃ page items, answer.Gives page items
    · obtain ⟨_, items, given⟩ := gives
      cases given with
      | pair listed records =>
        cases pair
        exact .inr ⟨items, listed, records⟩
    -- Being refused at the step leaves one judgement, and that one only falls where results are missing.
    · obtain ⟨w', raises⟩ := enforced.refuses fun page items given => gives ⟨page, items, given⟩
      have judged := called.judged_of_raises raises
      exact .inl (answer.judged_unpaired_iff.mp judged page results pair)
  · intro clear
    refine ⟨fun page items gives => called.passes gives.judged, fun none => ?_⟩
    apply called.raises
    rw [answer.judged_unpaired_iff]
    intro page results pair
    rcases clear page results pair with null | ⟨items, listed, records⟩
    · exact null
    · exact absurd (pair ▸ .pair listed records) (none page items)

theorem Called.missed (called : Called h d steps start w k state answer) (unclear : ¬ answer.Clear) :
    Missed h d steps start w k state answer := by
  cases judged : answer.judged with
  | error f =>
    have unlike : f ≠ unpaired := fun same => unclear (.of_judged (same ▸ judged))
    rcases (answer.judged_error_iff f).mp judged with ⟨-, same⟩ | ⟨page, results, pair, failed⟩
    · exact absurd same unlike
    · rcases (resultItems_error_iff results f).mp failed with ⟨-, same⟩ | ⟨-, v, rfl, uncountable, rfl⟩
      · exact absurd same unlike
      · exact .raised pair uncountable (called.raises judged)
  | ok given =>
    refine .passed ?_ (called.passes judged) ?_
    · rintro page items ⟨listed, records⟩
      apply unclear
      intro page' results pair
      cases pair
      exact .inr ⟨items, listed, records⟩
    · intro f failed
      obtain ⟨i, -, here⟩ := exists_of_mapM_error failed
      exact handOver_error here

variable {page : P} {id : String}

/-- A run fails with what its step raises. -/
theorem Raises.execute {handlers : List (Handler W P H C)} {w' : W}
    (raises : Raises (hostOfRun h id) d handlers steps (.initial page)
      ((hostOfRun h id).emit (runStartEvent steps) w) k f w') :
    ∃ w'', (execute h d handlers steps page id).runOn w = (.error f, w'') := by
  obtain ⟨ms, done⟩ := execute_runOn raises.runSteps
  exact ⟨_, done⟩

/-- The contract of callbacks is kept at a step of a run exactly when the answer is clear. Otherwise the
step fails as one that cannot count, or goes on; and what a step raises is what the run fails with. -/
theorem contract_enforced_iff
    (called : Called (hostOfRun h id) d steps (.initial page)
      ((hostOfRun h id).emit (runStartEvent steps) w) k state answer) :
    (Enforced (hostOfRun h id) d steps (.initial page) ((hostOfRun h id).emit (runStartEvent steps) w) k
      state answer ↔ answer.Clear) ∧
    (¬ answer.Clear → Missed (hostOfRun h id) d steps (.initial page)
      ((hostOfRun h id).emit (runStartEvent steps) w) k state answer) ∧
    ∀ f w', Raises (hostOfRun h id) d Handler.standard steps (.initial page)
      ((hostOfRun h id).emit (runStartEvent steps) w) k f w' →
        ∃ w'', (execute h d Handler.standard steps page id).runOn w = (.error f, w'') :=
  ⟨called.enforced_iff, called.missed, fun _ _ raises => raises.execute⟩

section Shapes
open StaticWorld (host openPage)

/-- A page is read, and then a callback gives an answer of some shape. -/
def readAndCall (shape : AnswerShape) : List (Step Callback) :=
  [.navigate ⟨"http://a/", "GET", .null⟩, .select [⟨"t", "p", none⟩], .eval (.answer shape)]

def atStart : StaticWorld :=
  (openPage { site := [("http://a/", { markup := "<p>1" })], start := 0, now := 0 } [] false).2

theorem called_readAndCall (shape : AnswerShape) :
    ∃ state r, state.results = [.record r] ∧
      Called (hostOfRun host "1") {} (readAndCall shape) (.initial (.page 0))
        ((hostOfRun host "1").emit (runStartEvent (readAndCall shape)) atStart) 2 state
        (Callback.shaped state.page state.results shape) := by
  -- Nothing before the call depends on the shape of its answer.
  obtain ⟨state, w₁, before, found⟩ := Act.exists_ok
    (runSteps (hostOfRun host "1") {} Handler.standard 0 ((readAndCall .null).take 2) (.initial (.page 0)))
    ((hostOfRun host "1").emit (runStartEvent (readAndCall .null)) atStart)
    (fun state _ => state.results.length == 1 &&
      state.results.all fun i => i.casesOn (fun _ => true) fun _ => false) (by decide +kernel)
  have called : Called (hostOfRun host "1") {} (readAndCall shape) (.initial (.page 0))
      ((hostOfRun host "1").emit (runStartEvent (readAndCall shape)) atStart) 2 state
      (Callback.shaped state.page state.results shape) :=
    ⟨.answer shape, w₁, _, rfl, before, rfl⟩
  simp only [Bool.and_eq_true, beq_iff_eq] at found
  obtain ⟨one, all⟩ := found
  obtain ⟨i, results⟩ := List.length_eq_one_iff.mp one
  rw [results] at all
  cases i with
  | record r => exact ⟨state, r, results, called⟩
  | stray v => cases all

theorem contract_enforced_at_tuple : ∃ state r,
    Called (hostOfRun host "1") {} (readAndCall .resultsTuple) (.initial (.page 0))
      ((hostOfRun host "1").emit (runStartEvent (readAndCall .resultsTuple)) atStart) 2 state
      (.pair state.page (.items [.record r])) ∧
    Enforced (hostOfRun host "1") {} (readAndCall .resultsTuple) (.initial (.page 0))
      ((hostOfRun host "1").emit (runStartEvent (readAndCall .resultsTuple)) atStart) 2 state
      (.pair state.page (.items [.record r])) := by
  obtain ⟨state, r, results, called⟩ := called_readAndCall .resultsTuple
  have answer : Callback.shaped state.page state.results .resultsTuple =
      .pair state.page (.items [.record r]) := by
    rw [results]
    rfl
  rw [answer] at called
  refine ⟨state, r, called, (contract_enforced_iff called).1.mpr ?_⟩
  intro page results pair
  cases pair
  refine .inr ⟨_, rfl, fun i mem => ?_⟩
  cases List.mem_singleton.mp mem
  exact .record r

/-- A number in the place of results is neither passed nor refused: the run fails because it cannot be
counted. -/
theorem number_is_not_refused : ∃ state w',
    Called (hostOfRun host "1") {} (readAndCall .resultsNumber) (.initial (.page 0))
      ((hostOfRun host "1").emit (runStartEvent (readAndCall .resultsNumber)) atStart) 2 state
      (.pair state.page (.data (.int 5))) ∧
    ¬ Enforced (hostOfRun host "1") {} (readAndCall .resultsNumber) (.initial (.page 0))
      ((hostOfRun host "1").emit (runStartEvent (readAndCall .resultsNumber)) atStart) 2 state
      (.pair state.page (.data (.int 5))) ∧
    (execute host {} Handler.standard (readAndCall .resultsNumber) (.page 0) "1").runOn atStart =
      (.error (Cause.badType "object of type 'int' has no len()"), w') := by
  obtain ⟨state, r, results, called⟩ := called_readAndCall .resultsNumber
  obtain ⟨w₁, raises⟩ := called.raises rfl
  obtain ⟨w', failed⟩ := raises.execute
  refine ⟨state, w', called, fun enforced => ?_, failed⟩
  have clear := called.enforced_iff.mp enforced
  rcases clear _ _ rfl with null | ⟨items, listed, -⟩
  · cases null
  · cases listed

end Shapes
end Replay
end PageHarvest

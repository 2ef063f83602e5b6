import Mathlib.Data.List.Induction
import PageHarvest.Proofs.Failure
import PageHarvest.Proofs.Replay.Motion

/-!
What a replay does around handlers: the events of a step, the outcome that goes on as it is, and runs
of steps in two parts. What a step makes of the state can be told from its kind, and a run that fails has
one step to blame.
-/
namespace PageHarvest.Replay
variable {W P H C : Type}

def startEvent (index : Nat) (s : Step C) : Event :=
  ⟨.info, "step.start", stepFields index s⟩

def endEvent (index : Nat) (s : Step C) (next : ReplayState P H) (elapsedMs : Int) : Event :=
  ⟨.info, "step.end", stepFields index s ++ [("scope", .text next.scope.kind),
    ("roots", .int next.scope.roots.length), ("elapsed_ms", .int elapsedMs)]⟩

def failureEvent (index : Nat) (s : Step C) (f : Failure) : Event :=
  ⟨.error, "step.failed",
    stepFields index s ++ [("error_type", .text f.name), ("error", .text f.message)]⟩

/-- The event after the handler. -/
def closingEvent (index : Nat) (s : Step C) (elapsedMs : Int) :
    Except Failure (ReplayState P H) → Event
  | .ok next => endEvent index s next elapsedMs
  | .error f => failureEvent index s f

theorem runOn_log (h : Host W P H C) (level : Level) (name : String) (fields : Fields) (w : W) :
    (h.log level name fields).runOn w = (.ok ⟨⟩, h.emit ⟨level, name, fields⟩ w) := rfl

theorem runOn_time (h : Host W P H C) (w : W) : h.time.runOn w = (.ok (h.now w), w) := rfl

/-- A step that has a handler runs it between two events. -/
theorem runStep_runOn {h : Host W P H C} {d : Defaults} {handlers : List (Handler W P H C)}
    {s : Step C} {name : String} {go : ReplayState P H → Act W (ReplayState P H)}
    (found : findHandler handlers h d s = some (name, fun state => some <$> go state)) {index : Nat}
    {state : ReplayState P H} {w w' : W} {out : Except Failure (ReplayState P H)}
    (run : (go state).runOn (h.emit (startEvent index s) w) = (out, w')) :
    (runStep h d handlers index s state).runOn w =
      (out, h.emit (closingEvent index s
        (h.precision.elapsedMs (h.now (h.emit (startEvent index s) w)) (h.now w')) out) w') := by
  unfold startEvent at run
  rw [runStep, found]
  simp only [Act.runOn_bind, runOn_log, runOn_time, guarded, Act.runOn_outcome, Act.runOn_map, run]
  cases out <;> rfl

/-- A step that succeeds has gone through its handler, between two events. -/
theorem handled_of_runStep {h : Host W P H C} {d : Defaults} {handlers : List (Handler W P H C)}
    {s : Step C} {name : String} {go : ReplayState P H → Act W (ReplayState P H)}
    (found : findHandler handlers h d s = some (name, fun state => some <$> go state)) {index : Nat}
    {state next : ReplayState P H} {w w' : W}
    (run : (runStep h d handlers index s state).runOn w = (.ok next, w')) :
    ∃ w₁ e, (go state).runOn (h.emit (startEvent index s) w) = (.ok next, w₁) ∧ w' = h.emit e w₁ := by
  rcases done : (go state).runOn (h.emit (startEvent index s) w) with ⟨out, w₁⟩
  rw [runStep_runOn found done] at run
  cases run
  exact ⟨w₁, _, rfl, rfl⟩

/-- What a step that succeeds makes of a state. -/
inductive Makes (h : Host W P H C) (state : ReplayState P H) (w : W) :
    Step C → ReplayState P H → Prop where
  | visited (visit) : Makes h state w (.navigate visit) (state.withScope .document)
  | waited (selector timeoutMs) : Makes h state w (.waitFor selector timeoutMs) state
  | grouped {selector handles w'}
      (found : (Handler.queryRoots h state.page selector state.scope.roots).runOn w = (.ok handles, w')) :
      Makes h state w (.groupBy selector) (state.withScope (.grouped handles))
  | selected {fields records w'}
      (read : (Handler.readRecords h state.page fields state.scope.roots).runOn w = (.ok records, w')) :
      Makes h state w (.select fields) (state.withRecords records)
  | called (callback page items) : Makes h state w (.eval callback)
      { state with page, scope := if h.samePage page state.page then state.scope else .document,
                   results := items }

/-- The handler begins when the step has been reported. -/
theorem runStep_ok {h : Host W P H C} {d : Defaults} {index : Nat} {s : Step C}
    {state next : ReplayState P H} {w w' : W}
    (run : (runStep h d Handler.standard index s state).runOn w = (.ok next, w')) :
    ∃ e, Makes h state (h.emit e w) s next := by
  refine ⟨startEvent index s, ?_⟩
  cases s with
  | navigate visit =>
    obtain ⟨w₁, _, done, -⟩ := handled_of_runStep rfl run
    obtain ⟨response, w₂, _, done⟩ := Act.runOn_bind_ok done
    obtain ⟨_, w₃, _, done⟩ := Act.runOn_bind_ok done
    split at done
    · cases done
    · cases done
      exact .visited visit
  | waitFor selector requested =>
    obtain ⟨w₁, _, done, -⟩ := handled_of_runStep rfl run
    obtain ⟨timeoutMs, w₂, _, done⟩ := Act.runOn_bind_ok done
    obtain ⟨now, w₃, _, done⟩ := Act.runOn_bind_ok done
    obtain ⟨span, w₄, _, done⟩ := Act.runOn_bind_ok done
    obtain ⟨_, w₅, _, done⟩ := Act.runOn_bind_ok done
    cases done
    exact .waited selector requested
  | groupBy selector =>
    obtain ⟨w₁, _, done, -⟩ := handled_of_runStep rfl run
    obtain ⟨handles, w₂, found, done⟩ := Act.runOn_bind_ok done
    obtain ⟨_, w₃, _, done⟩ := Act.runOn_bind_ok done
    cases done
    exact .grouped found
  | select fields =>
    obtain ⟨w₁, _, done, -⟩ := handled_of_runStep rfl run
    obtain ⟨records, w₂, read, done⟩ := Act.runOn_bind_ok done
    obtain ⟨_, w₃, _, done⟩ := Act.runOn_bind_ok done
    cases done
    exact .selected read
  | eval callback =>
    obtain ⟨w₁, _, done, -⟩ := handled_of_runStep rfl run
    obtain ⟨answer, w₂, _, done⟩ := Act.runOn_bind_ok done
    cases answer with
    | other => cases done
    | pair page results =>
      obtain ⟨items, w₃, _, done⟩ := Act.runOn_bind_ok done
      obtain ⟨_, w₄, _, done⟩ := Act.runOn_bind_ok done
      cases done
      exact .called callback page items
  | bare => cases run

/-- The first event of a run. -/
def runStartEvent (steps : List (Step C)) : Event :=
  ⟨.info, "query.start", [("steps", .int steps.length)]⟩

def runEndEvent (records : Nat) (elapsedMs : Int) : Event :=
  ⟨.info, "query.end", [("records", .int records), ("elapsed_ms", .int elapsedMs)]⟩

def noSelectEvent (steps : List (Step C)) : Event :=
  ⟨.error, "query.no_select", [("steps", .int steps.length)]⟩

/-- The host of a run. Its events carry the run's id. -/
def hostOfRun (h : Host W P H C) (runId : String) : Host W P H C :=
  h.bind [("run_id", .text runId)]

/-- The outcome of a run whose steps came to `out`. -/
def handedOver (out : Except Failure (ReplayState P H)) : Except Failure (List Record) := do
  let final ← out
  if final.selectsRun == 0 then .error Cause.noResults else final.results.mapM handOver

/-- The events after the steps of a run, if they were all done. -/
def runClosing (steps : List (Step C)) (elapsedMs : Int) : Except Failure (ReplayState P H) → List Event
  | .error _ => []
  | .ok final =>
    if final.selectsRun == 0 then [noSelectEvent steps]
    else [runEndEvent final.results.length elapsedMs]

/-- A run announces itself, does its steps and says how it ended. -/
theorem execute_runOn {h : Host W P H C} {d : Defaults} {handlers : List (Handler W P H C)}
    {steps : List (Step C)} {page : P} {runId : String} {w w' : W}
    {out : Except Failure (ReplayState P H)}
    (run : (runSteps (hostOfRun h runId) d handlers 0 steps (.initial page)).runOn
      ((hostOfRun h runId).emit (runStartEvent steps) w) = (out, w')) :
    ∃ ms, (execute h d handlers steps page runId).runOn w =
      (handedOver out, (runClosing steps ms out).foldl (fun w e => (hostOfRun h runId).emit e w) w') := by
  unfold hostOfRun runStartEvent at run
  refine ⟨h.precision.elapsedMs (h.now ((hostOfRun h runId).emit (runStartEvent steps) w)) (h.now w'), ?_⟩
  simp only [execute, Act.runOn_bind, runOn_log, runOn_time, run]
  cases out with
  | error f => rfl
  | ok final =>
    dsimp only [handedOver, runClosing, bind, Except.bind]
    cases final.selectsRun == 0 with
    | true => rfl
    | false => rfl

variable {h : Host W P H C} {d : Defaults} {handlers : List (Handler W P H C)}

/-- A run that hands over records has done its steps. -/
theorem execute_ok {steps : List (Step C)} {page : P} {runId : String} {w w' : W} {records : List Record}
    (run : (execute h d handlers steps page runId).runOn w = (.ok records, w')) : ∃ final x,
    (runSteps (hostOfRun h runId) d handlers 0 steps (.initial page)).runOn
      ((hostOfRun h runId).emit (runStartEvent steps) w) = (.ok final, x) ∧
    final.results.mapM handOver = .ok records := by
  rcases steps_run : (runSteps (hostOfRun h runId) d handlers 0 steps (.initial page)).runOn
    ((hostOfRun h runId).emit (runStartEvent steps) w) with ⟨out, x⟩
  obtain ⟨ms, done⟩ := execute_runOn steps_run
  obtain ⟨handed, -⟩ := Prod.mk.inj (done.symm.trans run)
  obtain ⟨final, rfl, handed'⟩ := bind_ok_iff.mp handed
  refine ⟨final, x, rfl, ?_⟩
  cases selected : final.selectsRun == 0 with
  | true =>
    rw [selected] at handed'
    cases handed'
  | false =>
    rw [selected] at handed'
    exact handed'

theorem runSteps_append (index : Nat) (before rest : List (Step C)) (state : ReplayState P H) :
    runSteps h d handlers index (before ++ rest) state =
      runSteps h d handlers index before state >>=
        runSteps h d handlers (index + before.length) rest := by
  induction before generalizing index state with
  | nil =>
    rw [List.nil_append, runSteps, pure_bind]
    rfl
  | cons s others ih =>
    simp only [List.cons_append, runSteps, bind_assoc, ih, List.length_cons, Nat.succ_add_eq_add_succ,
      Nat.succ_eq_add_one]

theorem runSteps_singleton (index : Nat) (s : Step C) (state : ReplayState P H) :
    runSteps h d handlers index [s] state = runStep h d handlers index s state := by
  simp only [runSteps, bind_pure]

/-- Step `k` raises `f` after the steps before it, and leaves `w'`. -/
structure Raises (h : Host W P H C) (d : Defaults) (handlers : List (Handler W P H C))
    (steps : List (Step C)) (state : ReplayState P H) (w : W) (k : Nat) (f : Failure) (w' : W) :
    Prop where
  raised : ∃ s middle w₁, steps[k]? = some s ∧
    (runSteps h d handlers 0 (steps.take k) state).runOn w = (.ok middle, w₁) ∧
    (runStep h d handlers k s middle).runOn w₁ = (.error f, w')

namespace Raises
variable {steps : List (Step C)} {state : ReplayState P H} {w w' w'' : W} {k j : Nat} {f f' : Failure}

theorem runSteps (raises : Raises h d handlers steps state w k f w') :
    (Replay.runSteps h d handlers 0 steps state).runOn w = (.error f, w') := by
  obtain ⟨s, middle, w₁, here, done, failed⟩ := raises.raised
  obtain ⟨inside, rfl⟩ := List.getElem?_eq_some_iff.mp here
  have split : steps = steps.take k ++ steps[k] :: steps.drop (k + 1) := by simp
  have length : 0 + (steps.take k).length = k := by
    rw [Nat.zero_add, List.length_take_of_le (Nat.le_of_lt inside)]
  rw [split, runSteps_append, Act.runOn_bind, done]
  dsimp only
  rw [length, Replay.runSteps, Act.runOn_bind, failed]

theorem take (raises : Raises h d handlers steps state w k f w') (before : k < j) :
    Raises h d handlers (steps.take j) state w k f w' := by
  obtain ⟨s, middle, w₁, here, done, failed⟩ := raises.raised
  refine ⟨s, middle, w₁, ?_, ?_, failed⟩
  · rw [List.getElem?_take_of_lt before, here]
  · rw [List.take_take, Nat.min_eq_left (Nat.le_of_lt before), done]

theorem not_before (raises : Raises h d handlers steps state w k f w')
    (other : Raises h d handlers steps state w j f' w'') : ¬ k < j := by
  intro before
  obtain ⟨s, middle, w₁, here, done, failed⟩ := other.raised
  rw [(raises.take before).runSteps] at done
  cases done

theorem unique (raises : Raises h d handlers steps state w k f w')
    (other : Raises h d handlers steps state w j f' w'') : k = j :=
  Nat.le_antisymm (Nat.le_of_not_lt (other.not_before raises)) (Nat.le_of_not_lt (raises.not_before other))

/-- A run that fails has a step that raises. -/
theorem of_runSteps (run : (Replay.runSteps h d handlers 0 steps state).runOn w = (.error f, w')) :
    ∃ k, Raises h d handlers steps state w k f w' := by
  induction steps using List.reverseRecOn generalizing w' with
  | nil => cases run
  | append_singleton before s ih =>
    rw [runSteps_append, Act.runOn_bind, Nat.zero_add] at run
    rcases first : (Replay.runSteps h d handlers 0 before state).runOn w with ⟨f₁ | middle, w₁⟩
    · rw [first] at run
      cases run
      obtain ⟨k, s', middle, w₁, here, done, failed⟩ := ih first
      obtain ⟨inside, -⟩ := List.getElem?_eq_some_iff.mp here
      refine ⟨k, s', middle, w₁, ?_, ?_, failed⟩
      · rw [List.getElem?_append_left inside, here]
      · rw [List.take_append_of_le_length (Nat.le_of_lt inside), done]
    · rw [first] at run
      dsimp only at run
      rw [runSteps_singleton] at run
      refine ⟨before.length, s, middle, w₁, List.getElem?_concat_length, ?_, run⟩
      rw [List.take_left, first]

end Raises
end PageHarvest.Replay

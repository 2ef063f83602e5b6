import PageHarvest.Proofs.Replay.Reports
import PageHarvest.Static.Page

/-!
What the log of a run says. `Told` reads the events of steps that were done, an ending tells how the run
came out, and what they say is true of the run.
-/
namespace PageHarvest.Replay
open Handler
variable {W P H C : Type}

/-- The events of steps that were done one after another, from a state to a state. -/
inductive Told (h : Host W P H C) (d : Defaults) :
    Nat → List (Step C) → ReplayState P H → List Event → ReplayState P H → Prop where
  | done (index state) : Told h d index [] state [] state
  | next {index s rest own events} {state next final : ReplayState P H} (ms : Int)
      (first : Reports h d state s (.ok next) own)
      (others : Told h d (index + 1) rest next events final) :
      Told h d index (s :: rest) state (stepEvents index s own ms (.ok next) ++ events) final

theorem told_of_runSteps {h : Host W P H C} {runId : String} {d : Defaults} {steps : List (Step C)}
    (kinds : ∀ s ∈ steps, s ≠ .bare)
    (gives : ∀ callback, .eval callback ∈ steps → GivesRecords h callback) {index : Nat}
    {state final : ReplayState P H} {r r' : Recorded W P H}
    (run : (runSteps (hostOfRun h.recorded runId) d Handler.standard index steps state).runOn r =
      (.ok final, r')) :
    ∃ events, Told h d index steps state events final ∧
      r'.log = r.log ++ events.map (stamped runId) := by
  induction steps generalizing index state r with
  | nil =>
    cases run
    exact ⟨[], .done _ _, (List.append_nil _).symm⟩
  | cons s rest ih =>
    obtain ⟨next, r₁, first, others⟩ := Act.runOn_bind_ok run
    obtain ⟨own, ms, reports, added⟩ := runStep_reports h runId d state index
      (kinds s List.mem_cons_self) (fun callback here => gives callback (here ▸ List.mem_cons_self)) first
    obtain ⟨events, told, more⟩ := ih (fun s mem => kinds s (List.mem_cons_of_mem _ mem))
      (fun callback mem => gives callback (List.mem_cons_of_mem _ mem)) others
    refine ⟨_, .next ms reports told, ?_⟩
    rw [more, added, List.map_append, List.append_assoc]

namespace Told
variable {h : Host W P H C} {d : Defaults} {index : Nat} {steps : List (Step C)}
  {state final : ReplayState P H} {events : List Event}

theorem selectsRun (told : Told h d index steps state events final) :
    final.selectsRun = state.selectsRun + steps.countP isSelection := by
  induction told with
  | done => rfl
  | next ms first others ih =>
    rw [ih, List.countP_cons]
    cases first with
    | selected one_each => exact Nat.add_right_comm _ _ _
    | _ => rfl

theorem records (told : Told h d index steps state events final)
    (before : ∀ i ∈ state.results, IsRecord i) : ∀ i ∈ final.results, IsRecord i := by
  induction told with
  | done => exact before
  | next ms first others ih =>
    apply ih
    cases first with
    | selected one_each =>
      intro i inside
      rcases List.mem_append.mp inside with old | new
      · exact before i old
      · obtain ⟨r, -, rfl⟩ := List.mem_map.mp new
        exact .record r
    | called records => exact records before
    | _ => exact before

end Told

/-- How a log ends. -/
inductive Ending (C : Type) where
  | finished (records : Nat) (elapsedMs : Int)
  | unselected
  | failed (index : Nat) (s : Step C) (own : Option Event) (f : Failure)

/-- The last events of the run of `steps`. -/
def Ending.events (steps : List (Step C)) : Ending C → List Event
  | finished n ms => [runEndEvent n ms]
  | unselected => [noSelectEvent steps]
  | failed k s own f => startEvent k s :: own.toList ++ [failureEvent k s f]

theorem handOver_isRecord {items : List Item} (records : ∀ i ∈ items, IsRecord i) :
    ∃ rows, items.mapM handOver = .ok rows ∧ rows.length = items.length := by
  induction items with
  | nil => exact ⟨[], rfl, rfl⟩
  | cons i rest ih =>
    obtain ⟨rows, others, length⟩ := ih fun i mem => records i (List.mem_cons_of_mem _ mem)
    obtain ⟨row, first⟩ : ∃ row, handOver i = .ok row := by
      cases records i List.mem_cons_self with
      | record r => exact ⟨r, rfl⟩
      | mapping entries => exact ⟨_, rfl⟩
    refine ⟨row :: rows, ?_, congrArg Nat.succ length⟩
    rw [List.mapM_cons, first, others]
    rfl

section Run
variable (h : Host W P H C) (d : Defaults) (steps : List (Step C)) (page : P) (runId : String) (w : W)

/-- The record once the run has been announced. -/
def announced : Recorded W P H :=
  (hostOfRun h.recorded runId).emit (runStartEvent steps) ⟨w, [], []⟩

/-- The outcome that goes with an ending, after the steps `done`. -/
inductive Ends (done : List (Step C)) (final : ReplayState P H) :
    Ending C → Except Failure (List Record) → Prop where
  | finished {rows} (ms : Int) (all : done = steps) (selects : steps.any isSelection = true)
      (count : rows.length = final.results.length) : Ends done final (.finished rows.length ms) (.ok rows)
  | unselected (all : done = steps) (selects : steps.any isSelection = false) :
      Ends done final .unselected (.error Cause.noResults)
  | failed {k s own f r}
      (raises : Raises (hostOfRun h.recorded runId) d Handler.standard steps (.initial page)
        (announced h steps runId w) k f r)
      (here : steps[k]? = some s) (before : done = steps.take k)
      (reports : Reports h d final s (.error f) own) : Ends done final (.failed k s own f) (.error f)

variable {h d steps page runId w}

theorem execute_ends (kinds : ∀ s ∈ steps, s ≠ .bare)
    (gives : ∀ callback, .eval callback ∈ steps → GivesRecords h callback) :
    ∃ out record told ending done final r,
      (execute h.recorded d Handler.standard steps page runId).runOn ⟨w, [], []⟩ = (out, record) ∧
      record.log = (runStartEvent steps :: told ++ ending.events steps).map (stamped runId) ∧
      (runSteps (hostOfRun h.recorded runId) d Handler.standard 0 done (.initial page)).runOn
        (announced h steps runId w) = (.ok final, r) ∧
      Told h d 0 done (.initial page) told final ∧
      Ends h d steps page runId w done final ending out := by
  rcases run : (runSteps (hostOfRun h.recorded runId) d Handler.standard 0 steps (.initial page)).runOn
    (announced h steps runId w) with ⟨f | final, r⟩
  · obtain ⟨ms, executed⟩ := execute_runOn run
    obtain ⟨k, raises⟩ := Raises.of_runSteps run
    obtain ⟨s, middle, r₁, here, done, failed⟩ := raises.raised
    have inside := List.mem_of_getElem? here
    obtain ⟨told, tells, before⟩ := told_of_runSteps (fun s mem => kinds s (List.mem_of_mem_take mem))
      (fun callback mem => gives callback (List.mem_of_mem_take mem)) done
    obtain ⟨own, ms', reports, last⟩ := runStep_reports h runId d middle k (kinds s inside)
      (fun callback here => gives callback (here ▸ inside)) failed
    refine ⟨_, _, told, .failed k s own f, _, middle, r₁, executed, ?_, done, tells,
      .failed raises here rfl reports⟩
    show r.log = _
    have start : (announced h steps runId w).log = [stamped runId (runStartEvent steps)] := rfl
    rw [last, before, start]
    simp only [stepEvents, closingEvent, Ending.events, List.map_append, List.map_cons, List.map_nil,
      List.cons_append, List.nil_append]
  · obtain ⟨ms, executed⟩ := execute_runOn run
    obtain ⟨told, tells, before⟩ := told_of_runSteps kinds gives run
    have start : (announced h steps runId w).log = [stamped runId (runStartEvent steps)] := rfl
    have none_run : (final.selectsRun == 0) = !steps.any isSelection := by
      rw [tells.selectsRun, ← countP_isSelection_eq_zero]
      exact congrArg (· == 0) (Nat.zero_add _)
    cases any : steps.any isSelection with
    | true =>
      rw [any] at none_run
      obtain ⟨rows, handed, length⟩ :=
        handOver_isRecord (tells.records fun i mem => absurd mem List.not_mem_nil)
      have out : handedOver (.ok final) = .ok rows := by
        simp only [handedOver, bind, Except.bind, none_run, Bool.not_true, Bool.false_eq_true, if_false,
          handed]
      rw [out] at executed
      refine ⟨_, _, told, .finished rows.length ms, _, final, r, executed, ?_, run, tells,
        .finished ms rfl any length⟩
      simp only [runClosing, none_run, Bool.not_true, Bool.false_eq_true, if_false, List.foldl_cons,
        List.foldl_nil]
      show r.log ++ [stamped runId _] = _
      rw [before, start, length]
      simp only [Ending.events, List.map_append, List.map_cons, List.map_nil, List.cons_append,
        List.nil_append]
    | false =>
      rw [any] at none_run
      have out : handedOver (.ok final) = .error Cause.noResults := by
        simp only [handedOver, bind, Except.bind, none_run, Bool.not_false, if_true]
      rw [out] at executed
      refine ⟨_, _, told, .unselected, _, final, r, executed, ?_, run, tells, .unselected rfl any⟩
      simp only [runClosing, none_run, Bool.not_false, if_true, List.foldl_cons, List.foldl_nil]
      show r.log ++ [stamped runId _] = _
      rw [before, start]
      simp only [Ending.events, List.map_append, List.map_cons, List.map_nil, List.cons_append,
        List.nil_append]

end Run

namespace Told
variable {h : Host W P H C} {d : Defaults} {index : Nat} {steps : List (Step C)}
  {state final : ReplayState P H} {events : List Event}

theorem unmarked (told : Told h d index steps state events final) : ∀ e ∈ events, Unmarked e := by
  induction told with
  | done => nofun
  | next ms first others ih =>
    intro e inside
    rcases List.mem_append.mp inside with now | later
    · exact stepEvents_unmarked first _ ms e now
    · exact ih e later

theorem settled (told : Told h d index steps state events final) (runId : String) :
    Settled (events.map (stamped runId)) := by
  induction told with
  | done => exact .nil
  | next ms first others ih =>
    rw [List.map_append]
    exact (stepEvents_settled first _ ms runId).append ih

theorem selected (told : Told h d index steps state events final) (plain : ∀ s ∈ steps, isPlain s)
    (runId : String) : ((events.map (stamped runId)).map recordsSelected).sum =
      (final.results.length : Int) - state.results.length := by
  induction told with
  | done => exact (Int.sub_self _).symm
  | next ms first others ih =>
    have later := ih fun s mem => plain s (List.mem_cons_of_mem _ mem)
    rw [List.map_append, List.map_append, List.sum_append, later,
      stepEvents_selected first (plain _ List.mem_cons_self) ms runId]
    omega

end Told

namespace Ends
variable {h : Host W P H C} {d : Defaults} {steps done : List (Step C)} {page : P} {runId : String}
  {w : W} {final : ReplayState P H} {ending : Ending C} {out : Except Failure (List Record)}

theorem unmarked (ends : Ends h d steps page runId w done final ending out) :
    ∀ e ∈ ending.events steps, Unmarked e := by
  cases ends with
  | finished ms all selects count => simp [Ending.events, Unmarked, runEndEvent]
  | unselected all selects => simp [Ending.events, Unmarked, noSelectEvent]
  | @failed k s own f r raises here before reports =>
    exact stepEvents_unmarked reports k 0

theorem settled (ends : Ends h d steps page runId w done final ending out) :
    Settled ((ending.events steps).map (stamped runId)) := by
  cases ends with
  | finished ms all selects count => exact .singleton rfl
  | unselected all selects => exact .singleton rfl
  | @failed k s own f r raises here before reports => exact stepEvents_settled reports k 0 runId

theorem selected (ends : Ends h d steps page runId w done final ending out) :
    (((ending.events steps).map (stamped runId)).map recordsSelected).sum = 0 := by
  cases ends with
  | finished ms all selects count => rfl
  | unselected all selects => rfl
  | failed raises here before reports => cases reports <;> rfl

theorem finished_iff (ends : Ends h d steps page runId w done final ending out) :
    (∃ n ms, ending = .finished n ms) ↔ ∃ rows, out = .ok rows := by
  cases ends with
  | finished ms => exact ⟨fun _ => ⟨_, rfl⟩, fun _ => ⟨_, _, rfl⟩⟩
  | unselected => exact ⟨nofun, nofun⟩
  | failed => exact ⟨nofun, nofun⟩

variable {r : Recorded W P H}
  (did : (runSteps (hostOfRun h.recorded runId) d Handler.standard 0 done (.initial page)).runOn
    (announced h steps runId w) = (.ok final, r))
include did

theorem unselected_iff (ends : Ends h d steps page runId w done final ending out) :
    ending = .unselected ↔
      (∃ last r, (runSteps (hostOfRun h.recorded runId) d Handler.standard 0 steps (.initial page)).runOn
        (announced h steps runId w) = (.ok last, r)) ∧ steps.any isSelection = false := by
  cases ends with
  | finished ms all selects =>
    refine ⟨nofun, fun ⟨_, never⟩ => ?_⟩
    rw [selects] at never
    cases never
  | unselected all selects =>
    subst all
    exact ⟨fun _ => ⟨⟨_, _, did⟩, selects⟩, fun _ => rfl⟩
  | failed raises =>
    refine ⟨nofun, fun ⟨⟨_, _, success⟩, _⟩ => ?_⟩
    rw [raises.runSteps] at success
    cases success

theorem failed_iff (ends : Ends h d steps page runId w done final ending out) (k : Nat) (f : Failure) :
    (∃ s own, ending = .failed k s own f) ↔
      ∃ r, Raises (hostOfRun h.recorded runId) d Handler.standard steps (.initial page)
        (announced h steps runId w) k f r := by
  have no_failure (all : done = steps) {r' : Recorded W P H} (raises : Raises (hostOfRun h.recorded runId) d
      Handler.standard steps (.initial page) (announced h steps runId w) k f r') : False := by
    subst all
    rw [raises.runSteps] at did
    cases did
  cases ends with
  | finished ms all => exact ⟨nofun, fun ⟨_, raises⟩ => (no_failure all raises).elim⟩
  | unselected all => exact ⟨nofun, fun ⟨_, raises⟩ => (no_failure all raises).elim⟩
  | failed raises =>
    constructor
    · rintro ⟨_, _, same⟩
      cases same
      exact ⟨_, raises⟩
    · rintro ⟨_, other⟩
      cases raises.unique other
      have same := raises.runSteps.symm.trans other.runSteps
      cases same
      exact ⟨_, _, rfl⟩

end Ends

/-- What the log of a run says is true of the run. It consists of the announcement, the events `told`
of the steps in `done`, and one ending. -/
structure TellsTruth (h : Host W P H C) (d : Defaults) (steps : List (Step C)) (page : P)
    (runId : String) (w : W) (out : Except Failure (List Record)) (log told : List Event)
    (ending : Ending C) (done : List (Step C)) (final : ReplayState P H) : Prop where
  form : log = (runStartEvent steps :: told ++ ending.events steps).map (stamped runId)
  in_order : Told h d 0 done (.initial page) told final
  ends : Ends h d steps page runId w done final ending out
  finished_iff : (∃ n ms, ending = .finished n ms) ↔ ∃ rows, out = .ok rows
  unselected_iff : ending = .unselected ↔
    (∃ last r, (runSteps (hostOfRun h.recorded runId) d Handler.standard 0 steps (.initial page)).runOn
      (announced h steps runId w) = (.ok last, r)) ∧ steps.any isSelection = false
  failed_iff : ∀ k f, (∃ s own, ending = .failed k s own f) ↔
    ∃ r, Raises (hostOfRun h.recorded runId) d Handler.standard steps (.initial page)
      (announced h steps runId w) k f r
  ids : ∀ e ∈ log, e.fields.get? "run_id" = some (.text runId)
  settled : Settled log
  selected : (∀ s ∈ steps, isPlain s) → ∀ rows, out = .ok rows →
    (log.map recordsSelected).sum = rows.length

end PageHarvest.Replay

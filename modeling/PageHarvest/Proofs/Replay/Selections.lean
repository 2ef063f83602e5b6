import PageHarvest.Proofs.Replay.Agreement
import PageHarvest.Proofs.Replay.Contract
import PageHarvest.Proofs.Replay.Log

/-!
What selections have to say about the end of a run. Whether there are results to give depends on how many
selections were done and on nothing that callbacks make of the results; and what selections read after the last
callback is handed over as it was read.
-/
namespace PageHarvest.Replay
open Handler
variable {W P H C : Type}

/-- The records that the selections among some steps read, one selection after another, while the steps are
done from a state and a world to others. -/
inductive Produces (h : Host W P H C) (d : Defaults) :
    Nat → List (Step C) → ReplayState P H → W → List Record → ReplayState P H → W → Prop where
  | done (index state w) : Produces h d index [] state w [] state w
  | selects {index rest state next final w w₁ w₂ v more} {fields : List Field} {read : List Record}
      (step : (runStep h d Handler.standard index (.select fields) state).runOn w = (.ok next, w₁))
      (records : (readRecords h state.page fields state.scope.roots).runOn
        (h.emit (startEvent index (.select fields : Step C)) w) = (.ok read, v))
      (others : Produces h d (index + 1) rest next w₁ more final w₂) :
      Produces h d index (.select fields :: rest) state w (read ++ more) final w₂
  | passes {index rest state next final w w₁ w₂ more} {s : Step C} (other : isSelection s = false)
      (step : (runStep h d Handler.standard index s state).runOn w = (.ok next, w₁))
      (others : Produces h d (index + 1) rest next w₁ more final w₂) :
      Produces h d index (s :: rest) state w more final w₂

/-- What selections decide about a run: `start` is the world once the run has been announced. -/
structure Decided (h : Host W P H C) (d : Defaults) (steps : List (Step C)) (page : P) (start : W)
    (out : Except Failure (List Record)) : Prop where
  /-- After every part of the run, as many selections are counted as were done. -/
  counted : ∀ k state w', (runSteps h d Handler.standard 0 (steps.take k) (.initial page)).runOn start =
    (.ok state, w') → state.selectsRun = (steps.take k).countP isSelection
  /-- When no step raises, the run is refused exactly when there was no selection, and gives records otherwise. -/
  refused_iff : (∀ k f w', ¬ Raises h d Handler.standard steps (.initial page) start k f w') →
    (out = .error Cause.noResults ↔ steps.any isSelection = false) ∧
    (steps.any isSelection → ∃ records, out = .ok records)
  /-- Behind what callbacks leave, the records are those that selections have read since. -/
  ends : ∀ before after records, steps = before ++ after → (∀ callback, .eval callback ∉ after) →
    out = .ok records → ∃ middle w₁ kept produced final w₂,
      (runSteps h d Handler.standard 0 before (.initial page)).runOn start = (.ok middle, w₁) ∧
      Produces h d before.length after middle w₁ produced final w₂ ∧
      middle.results.mapM handOver = .ok kept ∧ records = kept ++ produced

section Steps
variable {h : Host W P H C} {d : Defaults} {index : Nat} {s : Step C} {steps : List (Step C)}
  {state next final : ReplayState P H} {w w' : W}

theorem runStep_selectsRun (run : (runStep h d Handler.standard index s state).runOn w = (.ok next, w')) :
    next.selectsRun = state.selectsRun + [s].countP isSelection := by
  obtain ⟨e, makes⟩ := runStep_ok run
  cases makes <;> rfl

theorem runSteps_selectsRun
    (run : (runSteps h d Handler.standard index steps state).runOn w = (.ok final, w')) :
    final.selectsRun = state.selectsRun + steps.countP isSelection := by
  induction steps generalizing index state w with
  | nil =>
    cases run
    rfl
  | cons s rest ih =>
    obtain ⟨next, w₁, first, others⟩ := Act.runOn_bind_ok run
    rw [ih others, runStep_selectsRun first, Nat.add_assoc, ← List.countP_append, List.singleton_append]

/-- A run has done no selection exactly when none of its steps is one. -/
theorem selectsRun_eq_zero {page : P}
    (run : (runSteps h d Handler.standard index steps (.initial page)).runOn w = (.ok final, w')) :
    (final.selectsRun == 0) = !steps.any isSelection := by
  rw [runSteps_selectsRun run, ← countP_isSelection_eq_zero]
  exact congrArg (· == 0) (Nat.zero_add _)

theorem answered_of_runStep {callback : C}
    (run : (runStep h d Handler.standard index (.eval callback) state).runOn w = (.ok next, w')) :
    ∃ page results items w₁, (h.call callback state.page state.results).runOn
        (h.emit (startEvent index (.eval callback)) w) = (.ok (.pair page results), w₁) ∧
      resultItems results = .ok items ∧ next = answered h state page items := by
  obtain ⟨w₂, e, done, -⟩ := handled_of_runStep rfl run
  obtain ⟨answer, w₁, called, done⟩ := Act.runOn_bind_ok done
  cases answer with
  | other => cases done
  | pair page results =>
    obtain ⟨items, w₃, listed, done⟩ := Act.runOn_bind_ok done
    obtain ⟨listed, -⟩ := Prod.mk.inj listed
    obtain ⟨_, w₄, -, done⟩ := Act.runOn_bind_ok done
    cases done
    exact ⟨page, results, items, w₁, called, listed, rfl⟩

/-- Records stay records through a step whose callback, if it has one, gives records. -/
theorem runStep_records (gives : ∀ callback, s = .eval callback → GivesRecords h callback)
    (before : ∀ i ∈ state.results, IsRecord i)
    (run : (runStep h d Handler.standard index s state).runOn w = (.ok next, w')) :
    ∀ i ∈ next.results, IsRecord i := by
  obtain ⟨e, makes⟩ := runStep_ok run
  cases makes with
  | selected read =>
    intro i inside
    rcases List.mem_append.mp inside with old | new
    · exact before i old
    · obtain ⟨r, -, rfl⟩ := List.mem_map.mp new
      exact .record r
  | called callback page items =>
    obtain ⟨page', results, items', w₁, called, listed, same⟩ := answered_of_runStep run
    rw [same]
    exact gives callback rfl _ _ _ _ _ _ _ before called listed
  | _ => exact before

theorem runSteps_records (gives : ∀ callback, .eval callback ∈ steps → GivesRecords h callback)
    (before : ∀ i ∈ state.results, IsRecord i)
    (run : (runSteps h d Handler.standard index steps state).runOn w = (.ok final, w')) :
    ∀ i ∈ final.results, IsRecord i := by
  induction steps generalizing index state w with
  | nil =>
    cases run
    exact before
  | cons s rest ih =>
    obtain ⟨next, w₁, first, others⟩ := Act.runOn_bind_ok run
    refine ih (fun callback mem => gives callback (List.mem_cons_of_mem _ mem)) ?_ others
    exact runStep_records (fun callback same => gives callback (same ▸ List.mem_cons_self)) before first

theorem selected_of_runStep {fields : List Field}
    (run : (runStep h d Handler.standard index (.select fields) state).runOn w = (.ok next, w')) :
    ∃ read v, (readRecords h state.page fields state.scope.roots).runOn
        (h.emit (startEvent index (.select fields : Step C)) w) = (.ok read, v) ∧
      next = state.withRecords read := by
  obtain ⟨w₂, e, done, -⟩ := handled_of_runStep rfl run
  obtain ⟨read, v, records, done⟩ := Act.runOn_bind_ok done
  obtain ⟨_, _, -, done⟩ := Act.runOn_bind_ok done
  cases done
  exact ⟨read, v, records, rfl⟩

/-- Without callbacks, steps leave the results as they are and put what they read after them. -/
theorem produces_of_runSteps (free : ∀ callback, .eval callback ∉ steps)
    (run : (runSteps h d Handler.standard index steps state).runOn w = (.ok final, w')) :
    ∃ produced, Produces h d index steps state w produced final w' ∧
      final.results = state.results ++ produced.map .record := by
  induction steps generalizing index state w with
  | nil =>
    cases run
    exact ⟨[], .done _ _ _, (List.append_nil _).symm⟩
  | cons s rest ih =>
    obtain ⟨next, w₁, first, others⟩ := Act.runOn_bind_ok run
    obtain ⟨more, produces, results⟩ :=
      ih (fun callback mem => free callback (List.mem_cons_of_mem _ mem)) others
    have kept (other : isSelection s = false) (same : next.results = state.results) :
        ∃ produced, Produces h d index (s :: rest) state w produced final w' ∧
          final.results = state.results ++ produced.map .record :=
      ⟨more, .passes other first produces, same ▸ results⟩
    obtain ⟨e, makes⟩ := runStep_ok first
    cases makes with
    | visited => exact kept rfl rfl
    | waited => exact kept rfl rfl
    | grouped found => exact kept rfl rfl
    | called callback => exact absurd List.mem_cons_self (free callback)
    | selected _ =>
      obtain ⟨read, v, records, same⟩ := selected_of_runStep first
      refine ⟨read ++ more, .selects first records produces, ?_⟩
      rw [results, same, List.map_append, ← List.append_assoc]
      rfl

end Steps

/-- Whatever callbacks do to the results, only the selections that were done decide whether a run has any to
give. -/
theorem selections_decide (h : Host W P H C) (d : Defaults) {steps : List (Step C)} (page : P) (runId : String)
    (w : W) (gives : ∀ callback, .eval callback ∈ steps → GivesRecords h callback) :
    Decided (hostOfRun h runId) d steps page ((hostOfRun h runId).emit (runStartEvent steps) w)
      ((execute h d Handler.standard steps page runId).runOn w).1 where
  counted k state w' run := (runSteps_selectsRun run).trans (Nat.zero_add _)
  refused_iff calm := by
    rcases run : (runSteps (hostOfRun h runId) d Handler.standard 0 steps (.initial page)).runOn
      ((hostOfRun h runId).emit (runStartEvent steps) w) with ⟨f | final, w'⟩
    · obtain ⟨k, raises⟩ := Raises.of_runSteps run
      exact absurd raises (calm k f w')
    obtain ⟨ms, done⟩ := execute_runOn run
    have gives : ∀ callback, .eval callback ∈ steps → GivesRecords (hostOfRun h runId) callback := gives
    have records := runSteps_records gives (fun _ mem => absurd mem List.not_mem_nil) run
    obtain ⟨rows, handed, -⟩ := handOver_isRecord records
    have none_run := selectsRun_eq_zero run
    rw [done]
    dsimp only [handedOver, bind, Except.bind]
    rw [none_run, handed]
    cases steps.any isSelection with
    | true => exact ⟨⟨nofun, nofun⟩, fun _ => ⟨rows, rfl⟩⟩
    | false => exact ⟨⟨fun _ => rfl, fun _ => rfl⟩, nofun⟩
  ends before after records split free done := by
    subst split
    obtain ⟨final, w₂, run, handed⟩ := execute_ok (Prod.ext done rfl)
    rw [runSteps_append] at run
    obtain ⟨middle, w₁, first, rest⟩ := Act.runOn_bind_ok run
    rw [Nat.zero_add] at rest
    obtain ⟨produced, produces, results⟩ := produces_of_runSteps free rest
    rw [results, List.mapM_append, handOver_records] at handed
    obtain ⟨kept, held, same⟩ := bind_ok_iff.mp handed
    cases same
    exact ⟨middle, w₁, kept, produced, final, w₂, first, produces, held, rfl⟩

section Cleared
open StaticWorld (host openPage)

/-- A callback puts a record before all others, a grouping without a match is selected from, and another callback
clears everything. -/
def seedAndClear : List (Step Callback) :=
  [.navigate ⟨"http://a/", "GET", .null⟩, .eval (.seed [.record [("t", .text "more")]]), .groupBy "li",
    .select [⟨"t", "p", none⟩], .eval .clear]

theorem selections_decide_when_cleared :
    Decided (hostOfRun host "1") {} seedAndClear (.page 0)
      ((hostOfRun host "1").emit (runStartEvent seedAndClear) atStart)
      ((execute host {} Handler.standard seedAndClear (.page 0) "1").runOn atStart).1 ∧
    ((execute host {} Handler.standard seedAndClear (.page 0) "1").runOn atStart).1 = .ok [] := by
  refine ⟨selections_decide host {} (.page 0) "1" atStart ?_, ?_⟩
  · intro callback inside page items w page' results w' items' records called listed
    have either : callback = .seed [.record [("t", .text "more")]] ∨ callback = .clear := by
      simpa [seedAndClear] using inside
    rcases either with rfl | rfl
    · cases called
      cases listed
      exact List.forall_mem_append.mpr ⟨records, List.forall_mem_singleton.mpr (.record _)⟩
    · cases called
      cases listed
      nofun
  · obtain ⟨rows, w', run, empty⟩ := Act.exists_ok
      (execute host {} Handler.standard seedAndClear (.page 0) "1") atStart (fun rows _ => rows.isEmpty)
      (by decide +kernel)
    rw [run, List.isEmpty_iff.mp empty]

end Cleared

end PageHarvest.Replay

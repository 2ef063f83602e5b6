import PageHarvest.Proofs.Replay.Meaning
import PageHarvest.Proofs.Replay.Polling

/-!
What each step does on a host that records, in every world and state: the calls that its meaning
lists, and the state that follows from the answers to them.
-/
namespace PageHarvest.Replay
open Handler
variable {W P H C K : Type}

theorem InTurn.mapM {ι α : Type} {ask : ι → W → List (NotedCall P H) → Except Failure α → W → Prop}
    {act : ι → Act (Recorded W P H) α}
    (each : ∀ i w, ∃ calls out w', ask i w calls out w' ∧ Does (act i) w calls out w')
    (is : List ι) (w : W) :
    ∃ calls out w', InTurn ask is w calls out w' ∧ Does (is.mapM act) w calls out w' := by
  induction is generalizing w with
  | nil => exact ⟨[], _, w, .nil w, .pure _ w⟩
  | cons i rest ih =>
    rw [List.mapM_cons]
    obtain ⟨calls, out, w₁, asked, first⟩ := each i w
    cases out with
    | error f => exact ⟨calls, _, w₁, .stop asked, first.bind_error⟩
    | ok a =>
      obtain ⟨more, out, w₂, others, later⟩ := ih w₁
      refine ⟨calls ++ more, _, w₂, .next asked others, first.bind ?_⟩
      rw [← map_eq_pure_bind]
      exact later.map _

section Steps
variable {g : Host (Recorded W P H) P H C} {h : Host W P H C} (records : g.Records h)
  (d : Defaults) (state : ReplayState P H) (w : W)
include records

theorem does_navigateStep (visit : Visit) : ∃ calls out w',
    StepMeans h d (Attended h d state.page) state.page state.scope.roots (.navigate visit) w calls out w' ∧
      Does (navigateStep g visit state) w calls
        (out.map fun _ => state.withScope .document) w' := by
  obtain ⟨calls, out, w₁, asked, does⟩ := records.does_navigate state.page visit w
  have blank : g.blank = h.blank := congrArg PageDriver.blank records.driver
  cases out with
  | error f => exact ⟨calls, _, w₁, .unreachable asked, does.bind_error⟩
  | ok response =>
    -- the answer is judged after it has been reported
    have refused {f : Failure} (fault : responseFault? (h.blank state.page) response = some f) :
        Does (navigateStep g visit state) w calls (.error f) w₁ := by
      rw [← List.append_nil calls]
      refine does.bind ((records.does_log _ _ _ w₁).silently ?_)
      rw [blank, fault]
      exact .fail f w₁
    have accepted (fault : responseFault? (h.blank state.page) response = none) :
        Does (navigateStep g visit state) w calls (.ok (state.withScope .document)) w₁ := by
      rw [← List.append_nil calls]
      refine does.bind ((records.does_log _ _ _ w₁).silently ?_)
      rw [blank, fault]
      exact .pure _ w₁
    by_cases nothing : response.url = h.blank state.page
    · refine ⟨calls, _, w₁, .blank asked nothing, refused ?_⟩
      simp only [responseFault?, nothing, beq_self_eq_true, if_true]
    · cases status : response.status with
      | none =>
        refine ⟨calls, _, w₁, .visited asked nothing (by simp [status]), accepted ?_⟩
        simp only [responseFault?, beq_iff_eq, nothing, if_false, status]
      | some n =>
        by_cases bad : 400 ≤ n
        · refine ⟨calls, _, w₁, .refused asked nothing status bad, refused ?_⟩
          simp only [responseFault?, beq_iff_eq, nothing, if_false, status, bad, if_true]
        · refine ⟨calls, _, w₁, .visited asked nothing ?_, accepted ?_⟩
          · intro m same
            rw [status, Option.some.injEq] at same
            omega
          · simp only [responseFault?, beq_iff_eq, nothing, if_false, status, bad]

theorem does_groupStep (selector : String) : ∃ calls out w',
    InTurn (Queried h state.page selector) state.scope.roots w calls out w' ∧
      Does (groupStep g selector state) w calls
        (out.map fun found => state.withScope (.grouped found.flatten)) w' := by
  obtain ⟨calls, out, w₁, asked, does⟩ :=
    InTurn.mapM (records.does_queryAll state.page selector) state.scope.roots w
  refine ⟨calls, out, w₁, asked, ?_⟩
  rw [groupStep, queryRoots_eq_mapM]
  cases out with
  | error f => exact (does.map List.flatten).bind_error
  | ok found =>
    rw [← List.append_nil calls]
    exact (does.map List.flatten).bind ((records.does_log _ _ _ w₁).silently (.pure _ w₁))

theorem does_readFields (page : P) (fields : List Field) (root : Option H) (w : W) : ∃ calls out w',
    RecordRead h page fields root w calls out w' ∧
      Does (readFields g page root [] fields) w calls out w' := by
  obtain ⟨calls, values, w₁, asked, does⟩ := InTurn.mapM (records.does_extract page root) fields w
  refine ⟨calls, _, w₁, ⟨values, asked, rfl⟩, ?_⟩
  rw [readFields_eq_recordOf]
  exact does.map _

theorem does_selectStep (fields : List Field) : ∃ calls out w',
    StepMeans h d (Attended h d state.page) state.page state.scope.roots (.select fields) w calls out w' ∧
      Does (selectStep g fields state) w calls (out.map state.withRecords) w' := by
  obtain ⟨calls, out, w₁, asked, does⟩ :=
    InTurn.mapM (does_readFields records state.page fields) state.scope.roots w
  refine ⟨calls, out, w₁, .selected asked, ?_⟩
  rw [← readRecords_eq_mapM] at does
  cases out with
  | error f => exact does.bind_error
  | ok rows =>
    rw [← List.append_nil calls]
    exact does.bind ((records.does_log _ _ _ w₁).silently (.pure _ w₁))

/-- A wait whose timeout can be told attends to the roots in turn, with one deadline for all. -/
theorem does_waits {selector : String} {requested : Value} {timeoutMs : Int} {span : Rat}
    (timeout : effectiveTimeout d requested = .ok timeoutMs)
    (told : h.precision.seconds timeoutMs = .ok span) : ∃ calls out w',
    InTurn (Attended h d state.page selector timeoutMs (h.precision.near (h.now w + span)))
      state.scope.roots w calls out w' ∧
      Does (waitStep g d selector requested state) w calls (out.map fun _ => state) w' := by
  obtain ⟨calls, out, w₁, asked, does⟩ := InTurn.mapM (does_waitUnder records d selector timeoutMs
    (h.precision.near (h.now w + span)) state.page) state.scope.roots w
  refine ⟨calls, out, w₁, asked, ?_⟩
  rw [waitStep, timeout]
  refine (Does.ofExcept (.ok timeoutMs) w).silently ((records.does_time w).silently ?_)
  rw [records.precision, told]
  refine (Does.ofExcept (.ok span) w).silently ?_
  dsimp only
  rw [waitInAll_eq_mapM]
  cases out with
  | error f => exact (does.map _).bind_error
  | ok _ =>
    rw [← List.append_nil calls]
    exact (does.map _).bind (.pure _ w₁)

theorem does_waitStep (selector : String) (requested : Value) : ∃ calls out w',
    StepMeans h d (Attended h d state.page) state.page state.scope.roots
      (.waitFor selector requested) w calls out w' ∧
      Does (waitStep g d selector requested state) w calls (out.map fun _ => state) w' := by
  cases timeout : effectiveTimeout d requested with
  | error f =>
    refine ⟨[], _, w, .untimed (f := f) ?_, ?_⟩
    · rw [timeout]; rfl
    · rw [waitStep, timeout]
      exact (Does.ofExcept _ w).bind_error
  | ok timeoutMs =>
    cases told : h.precision.seconds timeoutMs with
    | error f =>
      refine ⟨[], _, w, .untimed (f := f) ?_, ?_⟩
      · rw [timeout]; exact told
      · rw [waitStep, timeout]
        refine (Does.ofExcept (.ok timeoutMs) w).silently ((records.does_time w).silently ?_)
        rw [records.precision, told]
        exact (Does.ofExcept _ w).bind_error
    | ok span =>
      obtain ⟨calls, out, w₁, asked, does⟩ := does_waits records d state w timeout told
      refine ⟨calls, _, w₁, .waited timeout told asked, ?_⟩
      cases out with
      | error f => exact does
      | ok _ => exact does

/-- A failure is reported and goes on as it is. -/
theorem does_guarded (index : Nat) (s : Step C) {act : Act (Recorded W P H) (Option (ReplayState P H))}
    {calls : List (NotedCall P H)} {out : Except Failure (Option (ReplayState P H))} {w w' : W}
    (does : Does act w calls out w') : Does (guarded g index s act) w calls out w' := by
  rw [← List.append_nil calls]
  refine does.outcome.bind ?_
  cases out with
  | ok next => exact .pure next w'
  | error f => exact (records.does_log _ _ _ w').silently (.fail f w')

theorem does_runStep {handlers : List (Handler (Recorded W P H) P H C)} (index : Nat) {s : Step C}
    {name : String} {go : ReplayState P H → Act (Recorded W P H) (ReplayState P H)}
    (handler : findHandler handlers g d s = some (name, fun state => some <$> go state))
    {calls : List (NotedCall P H)} {out : Except Failure (ReplayState P H)} {w w' : W}
    (does : Does (go state) w calls out w') :
    Does (runStep g d handlers index s state) w calls out w' := by
  rw [runStep, handler]
  refine (records.does_log _ _ _ w).silently ((records.does_time w).silently ?_)
  rw [← List.append_nil calls]
  cases out with
  | error f =>
    rw [List.append_nil]
    exact (does_guarded records index s (does.map some)).bind_error
  | ok next =>
    refine (does_guarded records index s (does.map some)).bind ?_
    exact (records.does_time w').silently ((records.does_log _ _ _ w').silently (.pure next w'))

end Steps

end PageHarvest.Replay

import Mathlib.Algebra.Ring.Int.Defs
import Mathlib.Data.List.Chain
import PageHarvest.Proofs.Data.Table
import PageHarvest.Proofs.Replay.Meaning
import PageHarvest.Proofs.Replay.Steps

/-!
What a step reports. Its handler has at most one event of its own, which comes from what the step came
to, and the replay puts the start before it and the end or the failure after it.
-/
namespace PageHarvest.Replay
open Handler
variable {W P H C : Type}

/-- An event of a run, with the run's id in front of its own fields. -/
def stamped (runId : String) (e : Event) : Event :=
  { e with fields := Table.update [("run_id", .text runId)] e.fields }

def responseEvent (visit : Visit) (r : PageResponse) : Event :=
  ⟨.debug, "navigate.response", [("url", .text visit.url), ("method", .text visit.method),
    ("status", statusValue r.status), ("final_url", .text r.url)]⟩

def timeoutEvent (selector : String) (timeoutMs : Int) : Event :=
  ⟨.warning, "wait_for.timeout", [("selector", .text selector), ("timeout_ms", .int timeoutMs)]⟩

def groupEvent (selector : String) (parents count : Nat) : Event :=
  ⟨.debug, "group_by.matched",
    [("selector", .text selector), ("parents", .int parents), ("count", .int count)]⟩

def selectEvent (scope : Scope H) (fields : List Field) (records : List Record) : Event :=
  ⟨.debug, "select.records", [("scope", .text scope.kind), ("count", .int records.length),
    ("fields", .list (fields.map fun f => .text f.name)),
    ("missing_fields", .list ((missingFields fields records).map .text))]⟩

def callEvent (results : Nat) (replaced : Bool) : Event :=
  ⟨.debug, "eval.done", [("results", .int results), ("page_replaced", .bool replaced)]⟩

/-- Results that can be handed over as they are. -/
inductive IsRecord : Item → Prop where
  | record (r : Record) : IsRecord (.record r)
  | mapping (entries : List (Value × Value)) : IsRecord (.stray (.map entries))

/-- The event of its own with which a handler reports a step, by what the step came to. -/
inductive Reports (h : Host W P H C) (d : Defaults) (state : ReplayState P H) :
    Step C → Except Failure (ReplayState P H) → Option Event → Prop where
  | visited {visit r} (accepted : responseFault? (h.blank state.page) r = none) :
      Reports h d state (.navigate visit) (.ok (state.withScope .document))
        (some (responseEvent visit r))
  | refused {visit r f} (fault : responseFault? (h.blank state.page) r = some f) :
      Reports h d state (.navigate visit) (.error f) (some (responseEvent visit r))
  | waited (selector requested) : Reports h d state (.waitFor selector requested) (.ok state) none
  | expired {selector requested timeoutMs} (timeout : effectiveTimeout d requested = .ok timeoutMs) :
      Reports h d state (.waitFor selector requested)
        (.error (Cause.selectorTimeout (.text selector) (.int timeoutMs)))
        (some (timeoutEvent selector timeoutMs))
  | grouped (selector handles) :
      Reports h d state (.groupBy selector) (.ok (state.withScope (.grouped handles)))
        (some (groupEvent selector state.scope.roots.length handles.length))
  | selected {fields records} (one_each : records.length = state.scope.roots.length) :
      Reports h d state (.select fields) (.ok (state.withRecords records))
        (some (selectEvent state.scope fields records))
  | called {callback page items}
      (records : (∀ i ∈ state.results, IsRecord i) → ∀ i ∈ items, IsRecord i) :
      Reports h d state (.eval callback)
        (.ok { state with page, scope := if h.samePage page state.page then state.scope else .document,
                          results := items })
        (some (callEvent items.length !(h.samePage page state.page)))
  /-- A page or a callback raised, or gave what the step cannot use. -/
  | raised (s f) : Reports h d state s (.error f) none

/-- Given records, a callback gives back a page and records, if anything that its step can use. -/
def GivesRecords (h : Host W P H C) (callback : C) : Prop :=
  ∀ page items w page' results w' items', (∀ i ∈ items, IsRecord i) →
    (h.call callback page items).runOn w = (.ok (.pair page' results), w') →
      resultItems results = .ok items' → ∀ i ∈ items', IsRecord i

/-- Records with the same log. -/
def SameLog (r r' : Recorded W P H) : Prop := r'.log = r.log

instance : IsPreorder (Recorded W P H) SameLog where
  refl _ := rfl
  trans _ _ _ first second := Eq.trans second first

/-- Nothing but events reaches the log. -/
theorem hostOfRun_quiet (h : Host W P H C) (runId : String) :
    HostMoves SameLog { hostOfRun h.recorded runId with emit := fun _ r => r } where
  navigate _ _ _ := rfl
  waitFor _ _ _ _ _ := rfl
  queryAll _ _ _ _ := rfl
  extract _ _ _ _ _ := rfl
  call _ _ _ _ := rfl
  sleep _ _ := rfl
  emit _ _ := rfl

/-- Every run of the action adds to the log at most one event, which fits its outcome. -/
def Adds (runId : String) {α : Type} (act : Act (Recorded W P H) α)
    (fits : Except Failure α → Option Event → Prop) : Prop :=
  ∀ r, ∃ own : Option Event,
    (act.runOn r).2.log = r.log ++ own.toList.map (stamped runId) ∧ fits (act.runOn r).1 own

namespace Adds
variable {α β : Type} {runId : String} {act : Act (Recorded W P H) α}
  {next : α → Act (Recorded W P H) β} {before : Except Failure α → Option Event → Prop}
  {fits : Except Failure β → Option Event → Prop}

theorem ofExcept {out : Except Failure β} (fit : fits out none) :
    Adds runId (Act.ofExcept out : Act (Recorded W P H) β) fits :=
  fun _ => ⟨none, (List.append_nil _).symm, fit⟩

theorem quietly (quiet : Act.Moves SameLog act) : Adds runId act fun _ own => own = none :=
  fun r => ⟨none, (quiet r).trans (List.append_nil _).symm, rfl⟩

/-- Only a last part may report. -/
theorem bind (first : Adds runId act before) (silent : ∀ {x own}, before (.ok x) own → own = none)
    (failed : ∀ {f own}, before (.error f) own → fits (.error f) own)
    (rest : ∀ {r x r'}, act.runOn r = (.ok x, r') → Adds runId (next x) fits) :
    Adds runId (act >>= next) fits := by
  intro r
  obtain ⟨own, added, fit⟩ := first r
  rw [Act.runOn_bind]
  rcases run : act.runOn r with ⟨f | x, r₁⟩
  · rw [run] at added fit
    exact ⟨own, added, failed fit⟩
  · rw [run] at added fit
    cases silent fit
    obtain ⟨later, more, fit⟩ := rest run r₁
    rw [added, Option.toList_none, List.map_nil, List.append_nil] at more
    exact ⟨later, more, fit⟩

theorem quietThen (quiet : Act.Moves SameLog act) (failed : ∀ f, fits (.error f) none)
    (rest : ∀ {r x r'}, act.runOn r = (.ok x, r') → Adds runId (next x) fits) :
    Adds runId (act >>= next) fits :=
  (quietly quiet).bind id (fun silent => silent ▸ failed _) rest

/-- Once an event has been reported, the outcome is known. -/
theorem reporting (h : Host W P H C) (e : Event) {out : Except Failure β} (fit : fits out (some e)) :
    Adds runId (do (hostOfRun h.recorded runId).log e.level e.name e.fields; Act.ofExcept out) fits :=
  fun _ => ⟨some e, rfl, fit⟩

end Adds

section Handlers
variable (h : Host W P H C) (runId : String) (d : Defaults) (state : ReplayState P H)

theorem noting_quiet {α : Type} (page : P) (call : PageCall H) (act : Act W α) :
    Act.Moves SameLog (Recorded.noting h page call act) :=
  fun _ => rfl

theorem navigateStep_adds (visit : Visit) :
    Adds runId (navigateStep (hostOfRun h.recorded runId) visit state)
      (Reports h d state (.navigate visit)) := by
  refine .quietThen (noting_quiet h _ _ _) (.raised _) fun {_ response _} _ => ?_
  have blank : (hostOfRun h.recorded runId).blank = h.blank := rfl
  rw [blank]
  cases fault : responseFault? (h.blank state.page) response with
  | some f => exact .reporting h (responseEvent visit response) (.refused fault)
  | none => exact .reporting h (responseEvent visit response) (.visited fault)

theorem groupStep_adds (selector : String) :
    Adds runId (groupStep (hostOfRun h.recorded runId) selector state)
      (Reports h d state (.groupBy selector)) := by
  have quiet (roots : List (Option H)) :
      Act.Moves SameLog (queryRoots (hostOfRun h.recorded runId) state.page selector roots) := by
    rw [queryRoots_eq_mapM]
    exact .map (.mapM (fun root => noting_quiet h _ _ _) roots)
  refine .quietThen (quiet _) (.raised _) fun {_ handles _} _ => ?_
  exact .reporting h (groupEvent selector state.scope.roots.length handles.length)
    (.grouped selector handles)

theorem selectStep_adds (fields : List Field) :
    Adds runId (selectStep (hostOfRun h.recorded runId) fields state)
      (Reports h d state (.select fields)) := by
  have read (root : Option H) :
      Act.Moves SameLog (readFields (hostOfRun h.recorded runId) state.page root [] fields) := by
    rw [readFields_eq_mapM]
    exact .map (.mapM (fun f => noting_quiet h _ _ _) fields)
  rw [selectStep, readRecords_eq_mapM]
  refine .quietThen (.mapM read _) (.raised _) fun {_ records _} run => ?_
  exact .reporting h (selectEvent state.scope fields records) (.selected (Act.length_of_mapM run))

theorem evalStep_adds {callback : C} (gives : GivesRecords h callback) :
    Adds runId (evalStep (hostOfRun h.recorded runId) callback state)
      (Reports h d state (.eval callback)) := by
  refine .quietThen (fun _ => rfl) (.raised _) fun {r answer r'} called => ?_
  cases answer with
  | other => exact .ofExcept (.raised _ _)
  | pair page results =>
    refine .quietThen (.ofExcept _) (.raised _) fun {_ items _} listed => ?_
    refine .reporting h (callEvent items.length !(h.samePage page state.page)) (.called ?_)
    exact fun before =>
      gives _ _ _ _ _ _ _ before (Recorded.runOn_within called) (congrArg Prod.fst listed)

theorem attempt_quiet (wait : Wait) (page : P) (root : Option H) :
    Act.Moves SameLog (attempt (hostOfRun h.recorded runId) wait page root) :=
  (hostOfRun_quiet h runId).reads.attempt wait page root

/-- A wait that is given up has reported so. -/
def WaitReports (selector : String) (timeoutMs : Int) (out : Except Failure Unit) (own : Option Event) :
    Prop :=
  own = none ∨ out = .error (Cause.selectorTimeout (.text selector) (.int timeoutMs)) ∧
    own = some (timeoutEvent selector timeoutMs)

theorem giveUp_adds (wait : Wait) :
    Adds runId (giveUp (hostOfRun h.recorded runId) wait) (WaitReports wait.selector wait.timeoutMs) :=
  .reporting h (timeoutEvent wait.selector wait.timeoutMs) (.inr ⟨rfl, rfl⟩)

theorem waitIn_adds (wait : Wait) (page : P) (root : Option H) (n : Nat) :
    Adds runId (waitIn (hostOfRun h.recorded runId) wait page root n)
      (WaitReports wait.selector wait.timeoutMs) := by
  induction n with
  | zero =>
    refine .quietThen (attempt_quiet h runId wait page root) (fun _ => .inl rfl) fun {_ answer _} _ => ?_
    cases answer with
    | none => exact .ofExcept (.inl rfl)
    | some remaining => exact giveUp_adds h runId wait
  | succ n ih =>
    refine .quietThen (attempt_quiet h runId wait page root) (fun _ => .inl rfl) fun {_ answer _} _ => ?_
    cases answer with
    | none => exact .ofExcept (.inl rfl)
    | some remaining =>
      dsimp only
      split
      · exact .quietThen (.rest fun _ => rfl) (fun _ => .inl rfl) fun _ => ih
      · exact giveUp_adds h runId wait

theorem waitInAll_adds (selector : String) (timeoutMs : Int) (deadline : Rat) (page : P)
    (roots : List (Option H)) :
    Adds runId (waitInAll (hostOfRun h.recorded runId) d selector timeoutMs deadline page roots)
      (WaitReports selector timeoutMs) := by
  induction roots with
  | nil => exact .ofExcept (.inl rfl)
  | cons root rest ih =>
    have under : Adds runId (waitUnder (hostOfRun h.recorded runId) d selector timeoutMs deadline page root)
        (WaitReports selector timeoutMs) :=
      .quietThen (.ofExcept _) (fun _ => .inl rfl) fun _ =>
        .quietThen moves_time (fun _ => .inl rfl) fun _ => waitIn_adds h runId _ _ _ _
    refine .bind under ?_ ?_ fun _ => ih
    · rintro _ _ (silent | ⟨out, -⟩)
      · exact silent
      · cases out
    · intro f own reports
      rcases reports with silent | ⟨out, told⟩
      · exact .inl silent
      · cases out
        exact .inr ⟨rfl, told⟩

theorem waitStep_adds (selector : String) (requested : Value) :
    Adds runId (waitStep (hostOfRun h.recorded runId) d selector requested state)
      (Reports h d state (.waitFor selector requested)) := by
  refine .quietThen (.ofExcept _) (.raised _) fun {_ timeoutMs _} timeout => ?_
  refine .quietThen moves_time (.raised _) fun _ => .quietThen (.ofExcept _) (.raised _) fun _ => ?_
  refine .bind (waitInAll_adds h runId d selector timeoutMs _ state.page _) ?_ ?_ fun _ =>
    .ofExcept (.waited _ _)
  · rintro _ _ (silent | ⟨out, -⟩)
    · exact silent
    · cases out
  · rintro f own (silent | ⟨out, told⟩)
    · cases silent
      exact .raised _ f
    · cases out
      cases told
      exact .expired (congrArg Prod.fst timeout)

/-- Every kind of step has a handler, which reports. -/
theorem handler_adds {s : Step C} (kind : s ≠ .bare)
    (gives : ∀ callback, s = .eval callback → GivesRecords h callback) :
    ∃ (name : String) (go : ReplayState P H → Act (Recorded W P H) (ReplayState P H)),
      findHandler Handler.standard (hostOfRun h.recorded runId) d s =
        some (name, fun state => some <$> go state) ∧
      ∀ state, Adds runId (go state) (Reports h d state s) := by
  cases s with
  | navigate visit => exact ⟨_, _, rfl, fun state => navigateStep_adds h runId d state visit⟩
  | waitFor selector requested =>
    exact ⟨_, _, rfl, fun state => waitStep_adds h runId d state selector requested⟩
  | groupBy selector => exact ⟨_, _, rfl, fun state => groupStep_adds h runId d state selector⟩
  | select fields => exact ⟨_, _, rfl, fun state => selectStep_adds h runId d state fields⟩
  | eval callback => exact ⟨_, _, rfl, fun state => evalStep_adds h runId d state (gives callback rfl)⟩
  | bare => exact absurd rfl kind

/-- The events of a step: its start, that of its handler, and its end or its failure. -/
def stepEvents (index : Nat) (s : Step C) (own : Option Event) (elapsedMs : Int)
    (out : Except Failure (ReplayState P H)) : List Event :=
  startEvent index s :: own.toList ++ [closingEvent index s elapsedMs out]

theorem runStep_reports (index : Nat) {s : Step C} (kind : s ≠ .bare)
    (gives : ∀ callback, s = .eval callback → GivesRecords h callback) {r r' : Recorded W P H}
    {out : Except Failure (ReplayState P H)}
    (run : (runStep (hostOfRun h.recorded runId) d Handler.standard index s state).runOn r = (out, r')) :
    ∃ own ms, Reports h d state s out own ∧
      r'.log = r.log ++ (stepEvents index s own ms out).map (stamped runId) := by
  obtain ⟨name, go, found, adds⟩ := handler_adds h runId d kind gives
  obtain ⟨own, added, reports⟩ :=
    adds state ((hostOfRun h.recorded runId).emit (startEvent index s) r)
  rcases done : (go state).runOn ((hostOfRun h.recorded runId).emit (startEvent index s) r) with ⟨out₁, r₁⟩
  rw [done] at added reports
  rw [runStep_runOn found done] at run
  cases run
  have whole (closing : Event) : r₁.log ++ [stamped runId closing] =
      r.log ++ (startEvent index s :: own.toList ++ [closing]).map (stamped runId) := by
    have started : ((hostOfRun h.recorded runId).emit (startEvent index s) r).log =
      r.log ++ [stamped runId (startEvent index s)] := rfl
    rw [added, started]
    simp only [List.map_append, List.map_cons, List.map_nil, List.append_assoc, List.cons_append,
      List.nil_append]
  exact ⟨own, _, reports, whole _⟩

end Handlers

/-- The records that an event says were selected. -/
def recordsSelected (e : Event) : Int :=
  if e.name == "select.records" then
    match e.fields.get? "count" with
    | some (.int n) => n
    | _ => 0
  else 0

/-- Whether an event counts what its step found. -/
def counts (e : Event) : Bool :=
  e.name == "select.records" || e.name == "group_by.matched"

/-- An event that counts is followed by the end of the step, with as many roots. -/
structure Settled (events : List Event) : Prop where
  chain : events.IsChain fun e e' => counts e → e'.name = "step.end" ∧
    e'.fields.get? "roots" = e.fields.get? "count"
  last : ∀ e ∈ events.getLast?, counts e = false

namespace Settled
variable {events more : List Event}

theorem nil : Settled [] := ⟨.nil, nofun⟩

theorem singleton {e : Event} (uncounted : counts e = false) : Settled [e] where
  chain := .singleton e
  last _ same := Option.some.inj same ▸ uncounted

theorem append (first : Settled events) (second : Settled more) : Settled (events ++ more) where
  chain := by
    refine first.chain.append second.chain ?_
    intro e last e' _ counted
    rw [first.last e last] at counted
    cases counted
  last e inside := by
    rw [List.getLast?_append] at inside
    cases later : more.getLast? with
    | none =>
      rw [later] at inside
      exact first.last e inside
    | some e' =>
      rw [later] at inside
      exact second.last e (later.trans inside)

end Settled

/-- No field of the event is named as the run's id. -/
def Unmarked (e : Event) : Prop := "run_id" ∉ e.fields.map (·.1)

theorem stamped_id {runId : String} {e : Event} (unmarked : Unmarked e) :
    (stamped runId e).fields.get? "run_id" = some (.text runId) := by
  have fresh : ∀ field ∈ e.fields, field.1 ≠ "run_id" :=
    fun field inside same => unmarked (same ▸ List.mem_map_of_mem inside)
  rw [stamped, Table.update_cons_of_fresh fresh]
  rfl

section StepEvents
variable {h : Host W P H C} {d : Defaults} {state next : ReplayState P H} {s : Step C}
  {out : Except Failure (ReplayState P H)} {own : Option Event}

theorem Reports.unmarked (reports : Reports h d state s out own) : ∀ e ∈ own, Unmarked e := by
  cases reports <;> simp [Unmarked, responseEvent, timeoutEvent, groupEvent, selectEvent, callEvent]

theorem startEvent_unmarked (index : Nat) (s : Step C) : Unmarked (startEvent index s) := by
  simp [Unmarked, startEvent, stepFields]

theorem closingEvent_unmarked (index : Nat) (s : Step C) (ms : Int)
    (out : Except Failure (ReplayState P H)) : Unmarked (closingEvent index s ms out) := by
  cases out <;> simp [Unmarked, closingEvent, endEvent, failureEvent, stepFields]

theorem stepEvents_unmarked (reports : Reports h d state s out own) (index : Nat) (ms : Int) :
    ∀ e ∈ stepEvents index s own ms out, Unmarked e := by
  intro e inside
  simp only [stepEvents, List.cons_append, List.mem_cons, List.mem_append, Option.mem_toList,
    List.not_mem_nil, or_false] at inside
  rcases inside with rfl | inside | rfl
  · exact startEvent_unmarked index s
  · exact reports.unmarked e inside
  · exact closingEvent_unmarked index s ms out

theorem stepEvents_selected (reports : Reports h d state s (.ok next) own) (plain : isPlain s)
    {index : Nat} (ms : Int) (runId : String) :
    (((stepEvents index s own ms (.ok next)).map (stamped runId)).map recordsSelected).sum =
      (next.results.length : Int) - state.results.length := by
  cases reports with
  | @selected fields records one_each =>
    have added : (state.withRecords records).results.length = state.results.length + records.length := by
      simp only [ReplayState.withRecords, List.length_append, List.length_map]
    show (0 : Int) + (records.length + (0 + 0)) = _
    omega
  | visited accepted => exact (Int.sub_self _).symm
  | waited => exact (Int.sub_self _).symm
  | grouped => exact (Int.sub_self _).symm
  | called => cases plain

theorem stepEvents_settled (reports : Reports h d state s out own) (index : Nat) (ms : Int)
    (runId : String) : Settled ((stepEvents index s own ms out).map (stamped runId)) := by
  have start : Settled [stamped runId (startEvent index s)] := .singleton rfl
  have close : Settled [stamped runId (closingEvent index s ms out)] := by
    cases out <;> exact .singleton rfl
  have quiet (e : Event) (uncounted : counts (stamped runId e) = false) :
      Settled ((stepEvents index s (some e) ms out).map (stamped runId)) :=
    start.append (Settled.append (.singleton uncounted) close)
  cases reports with
  | visited accepted => exact quiet _ rfl
  | refused fault => exact quiet _ rfl
  | expired timeout => exact quiet _ rfl
  | called records => exact quiet _ rfl
  | waited => exact start.append close
  | raised => exact start.append close
  | grouped selector handles =>
    refine start.append ⟨.cons_cons (fun _ => ⟨rfl, ?_⟩) close.chain, close.last⟩
    show some (Value.int (handles.map some).length) = some (.int handles.length)
    rw [List.length_map]
  | @selected fields records one_each =>
    refine start.append ⟨.cons_cons (fun _ => ⟨rfl, ?_⟩) close.chain, close.last⟩
    show some (Value.int state.scope.roots.length) = some (.int records.length)
    rw [one_each]

end StepEvents

end PageHarvest.Replay

import PageHarvest.Proofs.Replay.Attempts
import PageHarvest.Proofs.Replay.Reports
import PageHarvest.Proofs.Replay.Simulation

/-!
Two pages with handles of their own, between which a replay cannot tell. They answer alike, with handles
that belong together where the other answers with handles. Steps that call nothing back come to the same on both
and report the same, but for the time that they took.
-/
namespace PageHarvest
variable {W W' P P' H H' C : Type}

/-- An event without what differs from run to run in any case. -/
def Event.undated (e : Event) : Event :=
  { e with fields := e.fields.map fun e =>
      (e.1, if e.1 = "elapsed_ms" ∨ e.1 = "run_id" then .null else e.2) }

namespace Replay
open Handler Precision
open Act (Alike)

theorem undated_stamped (runId : String) (e : Event) : (stamped runId e).undated =
    { e.undated with fields := Table.update [("run_id", .null)] e.undated.fields } := by
  unfold stamped Event.undated
  dsimp only
  rw [Table.map_update fun name v => if name = "elapsed_ms" ∨ name = "run_id" then Value.null else v]
  rfl

/-- Two actions fail alike, or answer what belongs together in worlds that do. -/
abbrev AnswerAlike (paired : W → W' → Prop) {α α' : Type} (same : α → α' → Prop) :
    Act W α → Act W' α' → Prop :=
  Alike (fun _ _ => True) paired fun x x' w w' => same x x' ∧ paired w w'

/-- What two calls that wait come to: both find, both time out, or both fail alike in another way. -/
inductive WaitAlike (found expired : W → W' → Prop) :
    Except Failure Unit × W → Except Failure Unit × W' → Prop where
  | found {w w'} (worlds : found w w') : WaitAlike found expired (.ok ⟨⟩, w) (.ok ⟨⟩, w')
  | expired {f f' w w'} (late : f.cause.isTimeout = true) (late' : f'.cause.isTimeout = true)
      (worlds : expired w w') : WaitAlike found expired (.error f, w) (.error f', w')
  | raised {f w w'} (prompt : f.cause.isTimeout = false) : WaitAlike found expired (.error f, w) (.error f, w')

section
variable (h : Host W P H C) (h' : Host W' P' H' C) (page : P) (page' : P') (paired : W → W' → Prop)
  (handle : H → H' → Prop)

/-- Waits that answer the same calls alike. -/
def WaitsAlike : Prop :=
  ∀ {w w' root root'} selector ms, paired w w' → Option.Rel handle root root' →
    WaitAlike paired paired ((h.waitFor page selector ms root).runOn w)
      ((h'.waitFor page' selector ms root').runOn w')

/-- Waits that answer alike at the same time, on clocks that show the same. -/
structure Synchronous : Prop where
  waitFor : WaitsAlike h h' page page' paired handle
  precision : h'.precision = h.precision
  longestSleep : h'.longestSleep = h.longestSleep
  now : ∀ {w w'}, paired w w' → h'.now w' = h.now w
  sleep : ∀ {w w'} span, paired w w' → paired (h.sleep span w) (h'.sleep span w')

/-- The selector is waited for in vain from now on. -/
def Hopeless {W P H : Type} (h : Host W P H C) (page : P) (selector : String) (root : Option H) (w : W) :
    Prop :=
  ∃ worlds, InVain h page selector root worlds ∧ worlds w

/-- Waits that answer alike however long they are given, on clocks of their own. What times out once is
waited for in vain. -/
structure Timeless (pollMs : Int) : Prop where
  precision : h.precision = .double
  precision' : h'.precision = .double
  paces : h.Paces pollMs
  paces' : h'.Paces pollMs
  timely : ∀ {w w'}, paired w w' → Timely (h.now w) ∧ Timely (h'.now w')
  waitFor : ∀ {w w' root root'} selector {ms ms'}, Askable ms → Askable ms' → paired w w' →
    Option.Rel handle root root' →
    WaitAlike paired (fun w w' => Hopeless h page selector root w ∧ Hopeless h' page' selector root' w')
      ((h.waitFor page selector ms root).runOn w) ((h'.waitFor page' selector ms' root').runOn w')

/-- Two hosts with a page each that answer alike, for roots that `handle` relates. -/
structure Twins where
  paired : W → W' → Prop
  handle : H → H' → Prop
  blank : h'.blank page' = h.blank page
  navigate : ∀ visit, AnswerAlike paired (· = ·) (h.navigate page visit) (h'.navigate page' visit)
  queryAll : ∀ {root root'} selector, Option.Rel handle root root' →
    AnswerAlike paired (List.Forall₂ handle) (h.queryAll page selector root) (h'.queryAll page' selector root')
  extract : ∀ {root root'} selector attr, Option.Rel handle root root' →
    AnswerAlike paired (· = ·) (h.extract page root selector attr) (h'.extract page' root' selector attr)

variable {h h' page page'} in
/-- Waits of twins that end alike: both take the same time for them, or neither is helped by time. -/
def Twins.EndAlike (t : Twins h h' page page') (pollMs : Int) : Prop :=
  Synchronous h h' page page' t.paired t.handle ∨ Timeless h h' page page' t.paired t.handle pollMs

end

/-- Two logs that say the same. -/
def SameStory (r : Recorded W P H) (r' : Recorded W' P' H') : Prop :=
  r.log.map Event.undated = r'.log.map Event.undated

/-- Worlds that belong together, with logs that say the same. -/
structure Together (paired : W → W' → Prop) (r : Recorded W P H) (r' : Recorded W' P' H') : Prop where
  worlds : paired r.world r'.world
  told : SameStory r r'

/-- Two actions on record do alike and report alike. -/
abbrev TellAlike (paired : W → W' → Prop) {α α' : Type} (same : α → α' → Prop) :
    Act (Recorded W P H) α → Act (Recorded W' P' H') α' → Prop :=
  Alike SameStory (Together paired) fun x x' r r' => same x x' ∧ Together paired r r'

theorem noting_alike {h : Host W P H C} {h' : Host W' P' H' C} {page : P} {page' : P'}
    {paired : W → W' → Prop} {α α' : Type} {same : α → α' → Prop} {act : Act W α} {act' : Act W' α'}
    (alike : AnswerAlike paired same act act') (call : PageCall H) (call' : PageCall H') :
    TellAlike paired same (Recorded.noting h page call act) (Recorded.noting h' page' call' act') := by
  intro r r' together
  have answered := alike r.world r'.world together.worlds
  have run : (Recorded.noting h page call act).runOn r = ((act.runOn r.world).1,
    { r with world := (act.runOn r.world).2, calls := r.calls ++ [⟨page, h.now r.world, call⟩] }) := rfl
  have run' : (Recorded.noting h' page' call' act').runOn r' = ((act'.runOn r'.world).1,
    { r' with world := (act'.runOn r'.world).2, calls := r'.calls ++ [⟨page', h'.now r'.world, call'⟩] }) := rfl
  rw [run, run']
  generalize act.runOn r.world = out at answered ⊢
  generalize act'.runOn r'.world = out' at answered ⊢
  cases answered with
  | failed _ => exact .failed together.told
  | done answers => exact .done ⟨answers.1, answers.2, together.told⟩

section Reporting
variable (h : Host W P H C) (h' : Host W' P' H' C) (runId runId' : String) {paired : W → W' → Prop}

theorem SameStory.emit {e e' : Event} (same : e.undated = e'.undated) {r : Recorded W P H}
    {r' : Recorded W' P' H'} (told : SameStory r r') :
    SameStory ((hostOfRun h.recorded runId).emit e r) ((hostOfRun h'.recorded runId').emit e' r') := by
  have log : ((hostOfRun h.recorded runId).emit e r).log = r.log ++ [stamped runId e] := rfl
  have log' : ((hostOfRun h'.recorded runId').emit e' r').log = r'.log ++ [stamped runId' e'] := rfl
  unfold SameStory at told ⊢
  rw [log, log', List.map_append, List.map_append, told, List.map_singleton, List.map_singleton,
    undated_stamped, undated_stamped, same]

theorem Together.emit {e e' : Event} (same : e.undated = e'.undated) {r : Recorded W P H}
    {r' : Recorded W' P' H'} (together : Together paired r r') :
    Together paired ((hostOfRun h.recorded runId).emit e r) ((hostOfRun h'.recorded runId').emit e' r') :=
  ⟨together.worlds, together.told.emit h h' runId runId' same⟩

theorem log_alike (level : Level) (name : String) (fields : Fields) :
    TellAlike paired (fun _ _ => True) ((hostOfRun h.recorded runId).log level name fields)
      ((hostOfRun h'.recorded runId').log level name fields) :=
  fun _ _ together => .done ⟨trivial, together.emit h h' runId runId' rfl⟩

theorem ofExcept_alike {α : Type} (out : Except Failure α) :
    TellAlike paired (· = ·) (Act.ofExcept out : Act (Recorded W P H) α)
      (Act.ofExcept out : Act (Recorded W' P' H') α) := by
  intro r r' together
  cases out with
  | error f => exact .failed together.told
  | ok x => exact .done ⟨rfl, together⟩

/-- Waits for the same, of the same length, are given up with the same words. -/
theorem giveUp_alike {wait wait' : Wait} (selector : wait'.selector = wait.selector)
    (timeoutMs : wait'.timeoutMs = wait.timeoutMs) {r : Recorded W P H} {r' : Recorded W' P' H'}
    (told : SameStory r r') : Act.Outcomes SameStory (fun _ _ r r' => True ∧ Together paired r r')
      ((giveUp (hostOfRun h.recorded runId) wait).runOn r)
      ((giveUp (hostOfRun h'.recorded runId') wait').runOn r') := by
  have same : wait'.expired = wait.expired := by
    unfold Wait.expired
    rw [selector, timeoutMs]
  unfold giveUp
  rw [selector, timeoutMs, same]
  exact .failed (told.emit h h' runId runId' rfl)

end Reporting

section Waits
variable {h : Host W P H C} {h' : Host W' P' H' C} {page : P} {page' : P'} {runId runId' : String}
  {paired : W → W' → Prop} {handle : H → H' → Prop}

theorem waitFor_runOn (runId : String) {r : Recorded W P H} {selector : String} {ms : Int} {root : Option H}
    {out : Except Failure Unit} {w : W} (run : (h.waitFor page selector ms root).runOn r.world = (out, w)) :
    ∃ calls, ((hostOfRun h.recorded runId).waitFor page selector ms root).runOn r =
      (out, ⟨w, r.log, calls⟩) := by
  have noted : ((hostOfRun h.recorded runId).waitFor page selector ms root).runOn r =
    (((h.waitFor page selector ms root).runOn r.world).1,
      ⟨((h.waitFor page selector ms root).runOn r.world).2, r.log,
        r.calls ++ [⟨page, h.now r.world, .waitFor selector ms root⟩]⟩) := rfl
  rw [noted, run]
  exact ⟨_, rfl⟩

/-- What is told of a wait does not make it less vain. -/
theorem InVain.recorded {selector : String} {root : Option H} {worlds : W → Prop}
    (vain : InVain h page selector root worlds) (log : List Event) :
    InVain (hostOfRun h.recorded runId) page selector root
      fun r : Recorded W P H => worlds r.world ∧ r.log = log where
  precision := vain.precision
  expires := by
    rintro r ms ⟨here, rfl⟩ ask
    obtain ⟨f, w, run, late, there⟩ := vain.expires here ask
    obtain ⟨calls, run⟩ := waitFor_runOn runId run
    exact ⟨f, _, run, late, there, rfl⟩
  sleeps here positive := ⟨vain.sleeps here.1 positive, here.2⟩
  on here := vain.on here.1
  slept here positive := vain.slept here.1 positive

/-- A wait under each root in turn. -/
theorem waitInAll_alike {d : Defaults} {selector : String} {timeoutMs : Int} {deadline deadline' : Rat}
    (wait : ∀ {root root'}, Option.Rel handle root root' → TellAlike paired (fun _ _ => True)
      (waitUnder (hostOfRun h.recorded runId) d selector timeoutMs deadline page root)
      (waitUnder (hostOfRun h'.recorded runId') d selector timeoutMs deadline' page' root'))
    {roots : List (Option H)} {roots' : List (Option H')}
    (alike : List.Forall₂ (Option.Rel handle) roots roots') :
    TellAlike paired (fun _ _ => True)
      (waitInAll (hostOfRun h.recorded runId) d selector timeoutMs deadline page roots)
      (waitInAll (hostOfRun h'.recorded runId') d selector timeoutMs deadline' page' roots') := by
  rw [waitInAll_eq_mapM, waitInAll_eq_mapM]
  exact (Alike.mapM alike wait).map fun together => ⟨trivial, together.2⟩

namespace Synchronous
variable (sync : Synchronous h h' page page' paired handle)
include sync

theorem time_alike : TellAlike paired (· = ·) (hostOfRun h.recorded runId).time
    (hostOfRun h'.recorded runId').time :=
  fun _ _ together => .done ⟨(sync.now together.worlds).symm, together⟩

theorem rest_alike (span : Rat) : TellAlike paired (fun _ _ => True)
    ((hostOfRun h.recorded runId).rest span) ((hostOfRun h'.recorded runId').rest span) := by
  have same : (hostOfRun h'.recorded runId').refuses span = (hostOfRun h.recorded runId).refuses span :=
    congrArg (Option.any (· < span)) sync.longestSleep
  intro r r' together
  unfold Clock.rest
  rw [same]
  split
  · exact .failed together.told
  · exact .done ⟨trivial, sync.sleep span together.worlds, together.told⟩

variable {root : Option H} {root' : Option H'} (related : Option.Rel handle root root') (wait : Wait)
include related

theorem attempt_alike : TellAlike paired (· = ·) (attempt (hostOfRun h.recorded runId) wait page root)
    (attempt (hostOfRun h'.recorded runId') wait page' root') := by
  intro r r' together
  have same : callTimeout (hostOfRun h'.recorded runId').precision wait.deadline
        ((hostOfRun h'.recorded runId').now r') =
      callTimeout (hostOfRun h.recorded runId).precision wait.deadline
        ((hostOfRun h.recorded runId).now r) :=
    congr (congrArg (callTimeout · wait.deadline) sync.precision) (sync.now together.worlds)
  cases told : callTimeout (hostOfRun h.recorded runId).precision wait.deadline
    ((hostOfRun h.recorded runId).now r) with
  | error f =>
    rw [attempt_untold told, attempt_untold (same.trans told)]
    exact .failed together.told
  | ok ms =>
    have answered := sync.waitFor wait.selector ms together.worlds related
    rcases run : (h.waitFor page wait.selector ms root).runOn r.world with ⟨out, w⟩
    rcases run' : (h'.waitFor page' wait.selector ms root').runOn r'.world with ⟨out', w'⟩
    rw [run, run'] at answered
    obtain ⟨calls, run⟩ := waitFor_runOn runId run
    obtain ⟨calls', run'⟩ := waitFor_runOn runId' run'
    cases answered with
    | found worlds =>
      rw [attempt_found told run, attempt_found (same.trans told) run']
      exact .done ⟨rfl, worlds, together.told⟩
    | raised prompt =>
      rw [attempt_raised told run prompt, attempt_raised (same.trans told) run' prompt]
      exact .failed together.told
    | expired late late' worlds =>
      rw [attempt_expired told run late, attempt_expired (same.trans told) run' late']
      have remaining : h.precision.near (wait.deadline - h.now w) =
          h'.precision.near (wait.deadline - h'.now w') := by
        rw [sync.precision, sync.now worlds]
      exact .done ⟨congrArg some remaining, worlds, together.told⟩

theorem waitIn_alike (n : Nat) : TellAlike paired (fun _ _ => True)
    (waitIn (hostOfRun h.recorded runId) wait page root n)
    (waitIn (hostOfRun h'.recorded runId') wait page' root' n) := by
  induction n with
  | zero =>
    refine (sync.attempt_alike related wait).bind ?_
    rintro answer _ r r' ⟨rfl, together⟩
    cases answer with
    | none => exact .done ⟨trivial, together⟩
    | some remaining => exact giveUp_alike h h' runId runId' rfl rfl together.told
  | succ n ih =>
    refine (sync.attempt_alike related wait).bind ?_
    rintro answer _ r r' ⟨rfl, together⟩
    cases answer with
    | none => exact .done ⟨trivial, together⟩
    | some remaining =>
      by_cases early : 0 < remaining
      · simp only [early, if_true]
        refine (sync.rest_alike _).bind ?_ r r' together
        rintro _ _ r r' ⟨-, together⟩
        exact ih r r' together
      · simp only [early, if_false]
        exact giveUp_alike h h' runId runId' rfl rfl together.told

omit wait in
theorem waitUnder_alike (d : Defaults) (selector : String) (timeoutMs : Int) (deadline : Rat) :
    TellAlike paired (fun _ _ => True)
      (waitUnder (hostOfRun h.recorded runId) d selector timeoutMs deadline page root)
      (waitUnder (hostOfRun h'.recorded runId') d selector timeoutMs deadline page' root') := by
  have precision : (hostOfRun h'.recorded runId').precision = (hostOfRun h.recorded runId).precision :=
    sync.precision
  unfold waitUnder
  rw [precision]
  refine (ofExcept_alike _).bind ?_
  rintro poll _ r r' ⟨rfl, together⟩
  refine sync.time_alike.bind ?_ r r' together
  rintro now _ r r' ⟨rfl, together⟩
  exact sync.waitIn_alike related _ _ r r' together

end Synchronous

theorem Hopeless.waitIn_gives_up {wait : Wait} {root : Option H} {r r₁ : Recorded W P H}
    (hopeless : Hopeless h page wait.selector root r₁.world) (positive : 0 ≤ wait.poll)
    (paces : h.refuses wait.poll = false) (retold : Retold wait) (n : Nat)
    (tried : (attempt (hostOfRun h.recorded runId) wait page root).runOn r =
      (.ok (some (double.near (wait.deadline - (hostOfRun h.recorded runId).now r₁))), r₁)) :
    ∃ r₂, r₂.log = r₁.log ∧ (waitIn (hostOfRun h.recorded runId) wait page root n).runOn r =
      (giveUp (hostOfRun h.recorded runId) wait).runOn r₂ := by
  obtain ⟨worlds, vain, here⟩ := hopeless
  obtain ⟨r₂, there, run⟩ := (vain.recorded r₁.log).waitIn_gives_up positive paces retold n ⟨here, rfl⟩ tried
  exact ⟨r₂, there.2, run⟩

namespace Timeless
variable {d : Defaults} (timeless : Timeless h h' page page' paired handle d.pollIntervalMs)
  {root : Option H} {root' : Option H'} (related : Option.Rel handle root root')
  {r : Recorded W P H} {r' : Recorded W' P' H'}
include timeless related

/-- Waits that can make a first call, with deadlines and retries of their own. -/
theorem waitIn_alike (wait wait' : Wait) (selector : wait'.selector = wait.selector)
    (timeoutMs : wait'.timeoutMs = wait.timeoutMs) (positive : 0 ≤ wait.poll) (positive' : 0 ≤ wait'.poll)
    (paces : h.refuses wait.poll = false) (paces' : h'.refuses wait'.poll = false) (retold : Retold wait)
    (retold' : Retold wait') (together : Together paired r r') {ms ms' : Int}
    (ask : callTimeout double wait.deadline (h.now r.world) = .ok ms)
    (ask' : callTimeout double wait'.deadline (h'.now r'.world) = .ok ms') (n n' : Nat) :
    Act.Outcomes SameStory (fun _ _ r r' => True ∧ Together paired r r')
      ((waitIn (hostOfRun h.recorded runId) wait page root n).runOn r)
      ((waitIn (hostOfRun h'.recorded runId') wait' page' root' n').runOn r') := by
  have precision : (hostOfRun h.recorded runId).precision = .double := timeless.precision
  have precision' : (hostOfRun h'.recorded runId').precision = .double := timeless.precision'
  have answered := timeless.waitFor wait.selector (askable_of_callTimeout ask)
    (askable_of_callTimeout ask') together.worlds related
  replace ask : callTimeout (hostOfRun h.recorded runId).precision wait.deadline
      ((hostOfRun h.recorded runId).now r) = .ok ms := precision ▸ ask
  replace ask' : callTimeout (hostOfRun h'.recorded runId').precision wait'.deadline
      ((hostOfRun h'.recorded runId').now r') = .ok ms' := precision' ▸ ask'
  rcases run : (h.waitFor page wait.selector ms root).runOn r.world with ⟨out, w⟩
  rcases run' : (h'.waitFor page' wait.selector ms' root').runOn r'.world with ⟨out', w'⟩
  rw [run, run'] at answered
  rw [← selector] at run'
  obtain ⟨calls, run⟩ := waitFor_runOn runId run
  obtain ⟨calls', run'⟩ := waitFor_runOn runId' run'
  cases answered with
  | found worlds =>
    rw [waitIn_found (attempt_found ask run) n, waitIn_found (attempt_found ask' run') n']
    exact .done ⟨trivial, worlds, together.told⟩
  | raised prompt =>
    rw [waitIn_failed (attempt_raised ask run prompt) n, waitIn_failed (attempt_raised ask' run' prompt) n']
    exact .failed together.told
  | expired late late' hopeless =>
    have tried := attempt_expired ask run late
    have tried' := attempt_expired ask' run' late'
    rw [precision] at tried
    rw [precision'] at tried'
    rw [← selector] at hopeless
    obtain ⟨r₂, log, run⟩ := (selector ▸ hopeless.1).waitIn_gives_up positive paces retold n tried
    obtain ⟨r₂', log', run'⟩ := hopeless.2.waitIn_gives_up positive' paces' retold' n' tried'
    rw [run, run']
    refine giveUp_alike h h' runId runId' selector timeoutMs ?_
    rw [SameStory, log, log']
    exact together.told

/-- A wait under roots that belong together, each with a deadline as far from an instant of its own clock. -/
theorem waitUnder_alike (selector : String) {timeoutMs : Int} {span now now' : Rat}
    (told : double.seconds timeoutMs = .ok span) (timely : Timely now) (timely' : Timely now') :
    TellAlike paired (fun _ _ => True)
      (waitUnder (hostOfRun h.recorded runId) d selector timeoutMs (double.near (now + span)) page root)
      (waitUnder (hostOfRun h'.recorded runId') d selector timeoutMs (double.near (now' + span)) page'
        root') := by
  have precision : (hostOfRun h.recorded runId).precision = .double := timeless.precision
  have precision' : (hostOfRun h'.recorded runId').precision = .double := timeless.precision'
  intro r r' together
  obtain ⟨shown, shown'⟩ := timeless.timely together.worlds
  unfold waitUnder
  rw [Act.runOn_bind, Act.runOn_bind, Act.runOn_ofExcept, Act.runOn_ofExcept, precision, precision']
  cases interval : double.seconds (max d.pollIntervalMs 1) with
  | error f => exact .failed together.told
  | ok poll =>
    dsimp only
    rw [Act.runOn_bind, Act.runOn_bind, runOn_time, runOn_time]
    dsimp only
    generalize retryBound _ _ = n
    generalize retryBound _ _ = n'
    let wait : Wait := ⟨selector, timeoutMs, double.near (now + span), poll⟩
    let wait' : Wait := ⟨selector, timeoutMs, double.near (now' + span), poll⟩
    -- whether any call can be made is a matter of the timeout alone, not of the clocks
    cases plain : double.milliseconds span with
    | error f =>
      have untold : callTimeout (hostOfRun h.recorded runId).precision wait.deadline
          ((hostOfRun h.recorded runId).now r) = .error f :=
        precision ▸ callTimeout_untold told timely plain shown
      have untold' : callTimeout (hostOfRun h'.recorded runId').precision wait'.deadline
          ((hostOfRun h'.recorded runId').now r') = .error f :=
        precision' ▸ callTimeout_untold told timely' plain shown'
      rw [waitIn_failed (attempt_untold untold), waitIn_failed (attempt_untold untold')]
      exact .failed together.told
    | ok x =>
      obtain ⟨ms, ask⟩ := callTimeout_at told timely plain shown
      obtain ⟨ms', ask'⟩ := callTimeout_at told timely' plain shown'
      have positive := interval_nonneg interval
      exact timeless.waitIn_alike related wait wait' rfl rfl positive positive
        (timeless.paces poll (timeless.precision ▸ interval)) (timeless.paces' poll (timeless.precision' ▸ interval))
        (callTimeout_after_sleep told timely plain) (callTimeout_after_sleep told timely' plain) together ask
        ask' n n'

end Timeless

end Waits

/-- States of two replays that differ in their pages and handles only. -/
structure Counterparts (handle : H → H' → Prop) (page : P) (page' : P') (state : ReplayState P H)
    (state' : ReplayState P' H') : Prop where
  page : state.page = page
  page' : state'.page = page'
  scope : Scope.Alike handle state.scope state'.scope
  results : state'.results = state.results
  selects : state'.selectsRun = state.selectsRun

theorem Counterparts.undated_endEvent {handle : H → H' → Prop} {page : P} {page' : P'}
    {next : ReplayState P H} {next' : ReplayState P' H'} (apart : Counterparts handle page page' next next')
    (index : Nat) (s : Step C) (ms ms' : Int) :
    (endEvent index s next ms).undated = (endEvent index s next' ms').undated := by
  unfold endEvent
  rw [apart.scope.kind, apart.scope.roots.length_eq]
  rfl

theorem undated_runEndEvent (records : Nat) (ms ms' : Int) :
    (runEndEvent records ms).undated = (runEndEvent records ms').undated := rfl

namespace Twins
variable {h : Host W P H C} {h' : Host W' P' H' C} {page : P} {page' : P'} {t : Twins h h' page page'}
  (runId runId' : String) {d : Defaults}

theorem EndAlike.precision (alike : t.EndAlike d.pollIntervalMs) : h'.precision = h.precision := by
  rcases alike with sync | timeless
  · exact sync.precision
  · rw [timeless.precision, timeless.precision']

/-- Waits that begin together, with a deadline on each clock. -/
theorem EndAlike.waitInAll (ends : t.EndAlike d.pollIntervalMs) {r : Recorded W P H}
    {r' : Recorded W' P' H'} (together : Together t.paired r r') (selector : String) {timeoutMs : Int} {span : Rat}
    (told : h.precision.seconds timeoutMs = .ok span) {roots : List (Option H)} {roots' : List (Option H')}
    (alike : List.Forall₂ (Option.Rel t.handle) roots roots') : TellAlike t.paired (fun _ _ => True)
      (waitInAll (hostOfRun h.recorded runId) d selector timeoutMs
        (h.precision.near (h.now r.world + span)) page roots)
      (waitInAll (hostOfRun h'.recorded runId') d selector timeoutMs
        (h.precision.near (h'.now r'.world + span)) page' roots') := by
  rcases ends with sync | timeless
  · rw [sync.now together.worlds]
    exact Replay.waitInAll_alike (fun related => sync.waitUnder_alike related d selector timeoutMs _) alike
  · obtain ⟨timely, timely'⟩ := timeless.timely together.worlds
    rw [timeless.precision] at told ⊢
    exact Replay.waitInAll_alike
      (fun related => timeless.waitUnder_alike related selector told timely timely') alike

section Steps
variable (t) {state : ReplayState P H} {state' : ReplayState P' H'}
  (apart : Counterparts t.handle page page' state state')
include apart

theorem navigateStep_alike (visit : Visit) : TellAlike t.paired (Counterparts t.handle page page')
    (navigateStep (hostOfRun h.recorded runId) visit state)
    (navigateStep (hostOfRun h'.recorded runId') visit state') := by
  unfold navigateStep
  rw [apart.page, apart.page']
  refine (noting_alike (t.navigate visit) _ _).bind ?_
  rintro response _ r r' ⟨rfl, together⟩
  refine (log_alike h h' runId runId' _ _ _).bind ?_ r r' together
  rintro _ _ r r' ⟨-, together⟩
  have blank : (hostOfRun h'.recorded runId').blank page' = (hostOfRun h.recorded runId).blank page := t.blank
  rw [blank]
  cases responseFault? ((hostOfRun h.recorded runId).blank page) response with
  | some f => exact .failed together.told
  | none => exact .done ⟨⟨apart.page, apart.page', .document, apart.results, apart.selects⟩, together⟩

theorem waitStep_alike (ends : t.EndAlike d.pollIntervalMs) (selector : String) (requested : Value) :
    TellAlike t.paired (Counterparts t.handle page page')
      (waitStep (hostOfRun h.recorded runId) d selector requested state)
      (waitStep (hostOfRun h'.recorded runId') d selector requested state') := by
  have precision : (hostOfRun h'.recorded runId').precision = (hostOfRun h.recorded runId).precision :=
    ends.precision
  unfold waitStep
  rw [apart.page, apart.page']
  refine (ofExcept_alike _).bind ?_
  rintro timeoutMs _ r r' ⟨rfl, together⟩
  rw [Act.runOn_bind, Act.runOn_bind, runOn_time, runOn_time, precision]
  dsimp only
  cases told : (hostOfRun h.recorded runId).precision.seconds timeoutMs with
  | error f => exact .failed together.told
  | ok span =>
    refine (ends.waitInAll runId runId' together selector told apart.scope.roots).bind ?_ r r' together
    rintro _ _ r r' ⟨-, together⟩
    exact .done ⟨apart, together⟩

theorem groupStep_alike (selector : String) : TellAlike t.paired (Counterparts t.handle page page')
    (groupStep (hostOfRun h.recorded runId) selector state)
    (groupStep (hostOfRun h'.recorded runId') selector state') := by
  unfold groupStep
  rw [apart.page, apart.page']
  refine (queryRoots_alike (fun related => noting_alike (t.queryAll selector related) _ _)
    apart.scope.roots).bind ?_
  rintro found found' r r' ⟨each, together⟩
  rw [apart.scope.roots.length_eq, each.length_eq]
  refine (log_alike h h' runId runId' _ _ _).bind ?_ r r' together
  rintro _ _ r r' ⟨-, together⟩
  exact .done ⟨⟨apart.page, apart.page', .grouped each, apart.results, apart.selects⟩, together⟩

theorem selectStep_alike (fields : List Field) : TellAlike t.paired (Counterparts t.handle page page')
    (selectStep (hostOfRun h.recorded runId) fields state)
    (selectStep (hostOfRun h'.recorded runId') fields state') := by
  unfold selectStep
  rw [apart.page, apart.page']
  refine (readRecords_alike (fun related selector attr => noting_alike (t.extract selector attr related) _ _)
    apart.scope.roots).bind ?_
  rintro rows _ r r' ⟨rfl, together⟩
  rw [apart.scope.kind]
  refine (log_alike h h' runId runId' _ _ _).bind ?_ r r' together
  rintro _ _ r r' ⟨-, together⟩
  refine .done ⟨⟨apart.page, apart.page', apart.scope, ?_, ?_⟩, together⟩
  · simp only [ReplayState.withRecords, apart.results]
  · simp only [ReplayState.withRecords, apart.selects]

omit apart in
/-- What handlers do alike, the steps around them do and report alike. -/
theorem runStep_of_handler {d : Defaults} {s : Step C} {name : String}
    {go : ReplayState P H → Act (Recorded W P H) (ReplayState P H)}
    {go' : ReplayState P' H' → Act (Recorded W' P' H') (ReplayState P' H')}
    (found : findHandler Handler.standard (hostOfRun h.recorded runId) d s =
      some (name, fun state => some <$> go state))
    (found' : findHandler Handler.standard (hostOfRun h'.recorded runId') d s =
      some (name, fun state => some <$> go' state))
    (alike : TellAlike t.paired (Counterparts t.handle page page') (go state) (go' state')) (index : Nat) :
    TellAlike t.paired (Counterparts t.handle page page')
      (runStep (hostOfRun h.recorded runId) d Handler.standard index s state)
      (runStep (hostOfRun h'.recorded runId') d Handler.standard index s state') := by
  intro r r' together
  have answered := alike _ _ (together.emit h h' runId runId' (e := startEvent index s) rfl)
  rcases run : (go state).runOn ((hostOfRun h.recorded runId).emit (startEvent index s) r) with ⟨out, r₁⟩
  rcases run' : (go' state').runOn ((hostOfRun h'.recorded runId').emit (startEvent index s) r') with
    ⟨out', r₁'⟩
  rw [run, run'] at answered
  rw [runStep_runOn found run, runStep_runOn found' run']
  cases answered with
  | failed told => exact .failed (told.emit h h' runId runId' rfl)
  | done answers =>
    obtain ⟨apart, together⟩ := answers
    exact .done ⟨apart, together.emit h h' runId runId' (apart.undated_endEvent index s _ _)⟩

theorem runStep_alike (ends : t.EndAlike d.pollIntervalMs)
    {s : Step C} (free : ∀ callback, s ≠ .eval callback) (index : Nat) :
    TellAlike t.paired (Counterparts t.handle page page')
      (runStep (hostOfRun h.recorded runId) d Handler.standard index s state)
      (runStep (hostOfRun h'.recorded runId') d Handler.standard index s state') := by
  cases s with
  | navigate visit =>
    exact t.runStep_of_handler runId runId' rfl rfl (t.navigateStep_alike runId runId' apart visit) index
  | waitFor selector requested =>
    exact t.runStep_of_handler runId runId' rfl rfl
      (t.waitStep_alike runId runId' apart ends selector requested) index
  | groupBy selector =>
    exact t.runStep_of_handler runId runId' rfl rfl (t.groupStep_alike runId runId' apart selector) index
  | select fields =>
    exact t.runStep_of_handler runId runId' rfl rfl (t.selectStep_alike runId runId' apart fields) index
  | eval callback => exact absurd rfl (free callback)
  | bare => exact fun _ _ together => .failed together.told

theorem runSteps_alike (ends : t.EndAlike d.pollIntervalMs)
    {steps : List (Step C)} (free : ∀ callback, .eval callback ∉ steps)
    (index : Nat) : TellAlike t.paired (Counterparts t.handle page page')
      (runSteps (hostOfRun h.recorded runId) d Handler.standard index steps state)
      (runSteps (hostOfRun h'.recorded runId') d Handler.standard index steps state') := by
  induction steps generalizing index state state' with
  | nil => exact .pure fun together => ⟨apart, together⟩
  | cons s rest ih =>
    have here (callback : C) : s ≠ .eval callback := by
      rintro rfl
      exact free callback List.mem_cons_self
    refine (t.runStep_alike runId runId' apart ends here index).bind ?_
    rintro next next' r r' ⟨apart, together⟩
    exact ih apart (fun callback mem => free callback (List.mem_cons_of_mem s mem)) (index + 1) r r' together

end Steps

/-- Handles are opaque: on pages that answer alike, and whose waits end alike, steps without callbacks come to
the same records or the same failure, and the logs of both runs have the same events with the same fields,
apart from elapsed times and the ids of the runs. -/
theorem execute_opaque (t : Twins h h' page page') {d : Defaults} (ends : t.EndAlike d.pollIntervalMs)
    {steps : List (Step C)} (free : ∀ callback, .eval callback ∉ steps)
    {w : W} {w' : W'} (paired : t.paired w w') :
    ((execute h.recorded d Handler.standard steps page runId).runOn ⟨w, [], []⟩).1 =
        ((execute h'.recorded d Handler.standard steps page' runId').runOn ⟨w', [], []⟩).1 ∧
      ((execute h.recorded d Handler.standard steps page runId).runOn ⟨w, [], []⟩).2.log.map Event.undated =
        ((execute h'.recorded d Handler.standard steps page' runId').runOn ⟨w', [], []⟩).2.log.map
          Event.undated := by
  have together : Together t.paired (⟨w, [], []⟩ : Recorded W P H) (⟨w', [], []⟩ : Recorded W' P' H') :=
    ⟨paired, rfl⟩
  have initial : Counterparts t.handle page page' (.initial page) (.initial page') :=
    ⟨rfl, rfl, .document, rfl, rfl⟩
  have answered := t.runSteps_alike runId runId' initial ends free 0 _ _
    (together.emit h h' runId runId' (e := runStartEvent steps) rfl)
  rcases run : (runSteps (hostOfRun h.recorded runId) d Handler.standard 0 steps (.initial page)).runOn
    ((hostOfRun h.recorded runId).emit (runStartEvent steps) ⟨w, [], []⟩) with ⟨out, r⟩
  rcases run' : (runSteps (hostOfRun h'.recorded runId') d Handler.standard 0 steps (.initial page')).runOn
    ((hostOfRun h'.recorded runId').emit (runStartEvent steps) ⟨w', [], []⟩) with ⟨out', r'⟩
  rw [run, run'] at answered
  obtain ⟨ms, ran⟩ := execute_runOn run
  obtain ⟨ms', ran'⟩ := execute_runOn run'
  rw [ran, ran']
  cases answered with
  | failed told => exact ⟨rfl, told⟩
  | @done next next' r r' answers =>
    obtain ⟨apart, together⟩ := answers
    refine ⟨?_, ?_⟩
    · unfold handedOver
      simp only [bind, Except.bind, apart.results, apart.selects]
    · unfold runClosing
      dsimp only
      rw [apart.selects, apart.results]
      split
      · exact together.told.emit h h' runId runId' (e := noSelectEvent steps) rfl
      · exact together.told.emit h h' runId runId' (undated_runEndEvent _ ms ms')

end Twins

/-- A page that lists named things, with handles of any kind. It waits for what it does not list as long as
it is told, or gives up at once. -/
def catalogue (items : List H) (name : H → String) (patient : Bool) : Host Rat Unit H Empty where
  blank _ := blankUrl
  navigate _ visit := return ⟨some 200, visit.url⟩
  waitFor _ selector ms _ :=
    if selector == "li" then return
    else do
      modify fun now => if patient then double.near (now + ms / 1000) else now
      Act.fail (Cause.waitExpired (Cause.waitMessage selector (toString ms)))
  queryAll _ selector _ := return if selector == "li" then items else []
  extract _ root _ _ := return root.map name
  precision := .double
  now w := w
  sleep span w := double.near (w + span)
  emit _ w := w
  call c := nomatch c
  samePage _ _ := true

theorem catalogue_waitFor (items : List H) (name : H → String) (patient : Bool) (selector : String) (ms : Int)
    (root : Option H) (w : Rat) :
    ((catalogue items name patient).waitFor () selector ms root).runOn w =
      if selector == "li" then (.ok ⟨⟩, w)
      else (.error (Cause.waitExpired (Cause.waitMessage selector (toString ms))),
        if patient then double.near (w + ms / 1000) else w) := by
  simp only [catalogue]
  split <;> rfl

theorem catalogue_on {w : Rat} (on : -Binary64.twoPow 900 ≤ w) {ms : Int} (least : 1 ≤ ms) (patient : Bool) :
    -Binary64.twoPow 900 ≤ if patient then double.near (w + ms / 1000) else w := by
  have later : (1 : Rat) ≤ ms := by exact_mod_cast least
  split
  · exact le_near (by decide) (by linarith)
  · exact on

theorem catalogue_inVain (items : List H) (name : H → String) (patient : Bool) {selector : String}
    (other : (selector == "li") = false) (root : Option H) :
    InVain (catalogue items name patient) () selector root fun w => -Binary64.twoPow 900 ≤ w where
  precision := rfl
  expires := by
    intro w ms on ask
    rw [catalogue_waitFor, other]
    exact ⟨_, _, rfl, rfl, catalogue_on on ask.least patient⟩
  sleeps on positive := le_near (by decide) (by linarith)
  on := id
  slept _ _ := le_max_right _ _

/-- Catalogues of the same names cannot be told apart. -/
def cataloguesAlike (items : List H) (items' : List H') (name : H → String) (name' : H' → String)
    (same : items.map name = items'.map name') (patient patient' : Bool) :
    Twins (catalogue items name patient) (catalogue items' name' patient') () () where
  paired w w' := Timely w ∧ Timely w'
  handle item item' := name item = name' item'
  blank := rfl
  navigate _ _ _ timely := .done ⟨rfl, timely⟩
  queryAll selector _ _ _ timely := by
    refine .done ⟨?_, timely⟩
    have listed : List.Forall₂ (· = ·) (items.map name) (items'.map name') := by
      rw [List.forall₂_eq_eq_eq, same]
    rw [List.forall₂_map_left_iff, List.forall₂_map_right_iff] at listed
    split
    · exact listed
    · exact .nil
  extract selector attr related _ _ timely := by
    refine .done ⟨?_, timely⟩
    cases related with
    | none => rfl
    | some named => exact congrArg some named

/-- Time helps on neither of them, so both waits end alike, whether or not the pages are patient. -/
theorem cataloguesAlike_endAlike (items : List H) (items' : List H') (name : H → String) (name' : H' → String)
    (same : items.map name = items'.map name') (patient patient' : Bool) (pollMs : Int) :
    (cataloguesAlike items items' name name' same patient patient').EndAlike pollMs := by
  refine .inr ⟨rfl, rfl, fun _ _ => rfl, fun _ _ => rfl, id, ?_⟩
  intro w w' root root' selector ms ms' ask ask' timely _
  rw [catalogue_waitFor, catalogue_waitFor]
  cases listed : selector == "li" with
  | true => exact .found timely
  | false =>
    exact .expired rfl rfl
      ⟨⟨_, catalogue_inVain items name patient listed root,
          catalogue_on (abs_le.mp timely.1).1 ask.least patient⟩,
        ⟨_, catalogue_inVain items' name' patient' listed root',
          catalogue_on (abs_le.mp timely.2).1 ask'.least patient'⟩⟩

def goods : List String := ["tea", "salt"]

def shopping : List (Step Empty) :=
  [.navigate ⟨"http://shop/", "GET", .null⟩, .waitFor "li" .null, .groupBy "li", .select [⟨"name", "b", none⟩]]

/-- Goods by their places on a patient page, and goods by their names on one that is not. -/
theorem execute_opaque_at_goods : ∃ rows : List Record,
    rows.map (·.map fun e => (e.1, e.2.text?)) = [[("name", some "tea")], [("name", some "salt")]] ∧
    ((execute (catalogue [0, 1] (fun n => goods.getD n "") true).recorded {} Handler.standard shopping ()
      "a").runOn ⟨0, [], []⟩).1 = .ok rows ∧
    ((execute (catalogue goods id false).recorded {} Handler.standard shopping () "b").runOn
      ⟨1, [], []⟩).1 = .ok rows ∧
    ((execute (catalogue [0, 1] (fun n => goods.getD n "") true).recorded {} Handler.standard shopping ()
        "a").runOn ⟨0, [], []⟩).2.log.map Event.undated =
      ((execute (catalogue goods id false).recorded {} Handler.standard shopping () "b").runOn
        ⟨1, [], []⟩).2.log.map Event.undated := by
  have timely : Timely 0 ∧ Timely 1 := by
    have one : Binary64.twoPow 0 = 1 := rfl
    rw [Timely, Timely, abs_zero, abs_one, ← one]
    exact ⟨le_of_lt (Binary64.twoPow_pos 900), Binary64.twoPow_le_iff.mpr (by decide)⟩
  obtain ⟨rows, r, run, read⟩ := Act.exists_ok
    (execute (catalogue [0, 1] (fun n => goods.getD n "") true).recorded {} Handler.standard shopping () "a")
    ⟨0, [], []⟩ (fun rows _ => rows.map (·.map fun e => (e.1, e.2.text?)) ==
      [[("name", some "tea")], [("name", some "salt")]]) (by decide +kernel)
  obtain ⟨same, told⟩ := Twins.execute_opaque "a" "b"
    (cataloguesAlike [0, 1] goods (fun n => goods.getD n "") id rfl true false) (d := {})
    (cataloguesAlike_endAlike [0, 1] goods (fun n => goods.getD n "") id rfl true false 50)
    (show ∀ callback, .eval callback ∉ shopping by simp [shopping]) timely
  rw [run] at same told
  rw [run]
  exact ⟨rows, beq_iff_eq.mp read, rfl, same.symm, told⟩

/-- A page that has a match for the second wait only. For the first it waits as long as it is told, or it
gives up at once. The world is the time, with whether there has been a wait. -/
def hesitant (patient : Bool) : Host (Rat × Bool) Unit Unit Empty where
  blank _ := blankUrl
  navigate _ visit := return ⟨some 200, visit.url⟩
  waitFor _ selector ms _ := do
    let (now, asked) ← get
    if asked then return
    else
      set (if patient then double.near (now + ms / 1000) else now, true)
      Act.fail (Cause.waitExpired (Cause.waitMessage selector (toString ms)))
  queryAll _ _ _ := return []
  extract _ _ _ _ := return none
  precision := .double
  now w := w.1
  sleep span w := (double.near (w.1 + span), w.2)
  emit _ w := w
  call c := nomatch c
  samePage _ _ := true

def hesitantsAlike : Twins (hesitant false) (hesitant true) () () where
  paired w w' := w'.2 = w.2
  handle _ _ := True
  blank := rfl
  navigate _ _ _ same := .done ⟨rfl, same⟩
  queryAll _ _ _ _ same := .done ⟨.nil, same⟩
  extract _ _ _ _ _ same := .done ⟨rfl, same⟩

def waitAndSelect : List (Step Empty) :=
  [.waitFor "li" (.int 100), .select [⟨"name", "b", none⟩]]

/-- Pages whose waits find or time out alike are told apart by the time that they take: what is given up at
once is asked again before the deadline, and what was waited for until then is not. -/
theorem patience_tells_pages_apart :
    WaitsAlike (hesitant false) (hesitant true) () () hesitantsAlike.paired hesitantsAlike.handle ∧
    hesitantsAlike.paired (0, false) (0, false) ∧
    (∃ rows w, (execute (hesitant false) {} Handler.standard waitAndSelect () "1").runOn (0, false) =
      (.ok rows, w) ∧ (rows.length == 1) = true) ∧
    ∃ f w, (execute (hesitant true) {} Handler.standard waitAndSelect () "1").runOn (0, false) =
      (.error f, w) ∧ (f.name == "SelectorTimeoutError") = true := by
  refine ⟨?_, rfl, ?_, ?_⟩
  · rintro ⟨now, asked⟩ ⟨now', _⟩ root root' selector ms ⟨⟩ -
    cases asked with
    | true => exact .found rfl
    | false => exact .expired rfl rfl rfl
  · exact Act.exists_ok (execute (hesitant false) {} Handler.standard waitAndSelect () "1") (0, false)
      (fun rows _ => rows.length == 1) (by decide +kernel)
  · exact Act.exists_error (execute (hesitant true) {} Handler.standard waitAndSelect () "1") (0, false)
      (fun f => f.name == "SelectorTimeoutError") (by decide +kernel)

end Replay
end PageHarvest

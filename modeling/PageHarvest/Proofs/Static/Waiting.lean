import PageHarvest.Proofs.Css.Engine
import PageHarvest.Proofs.Replay.Attempts
import PageHarvest.Proofs.Replay.Simulation
import PageHarvest.Proofs.Static.Motion

/-!
Waiting on pages that do not change with time. What is there is found at once, and what is not there is
waited for in vain, so that the outcome of a wait follows from what the page shows.
-/
namespace PageHarvest

/-- What does not get in the way of waits: the engine knows at once what it cannot read, and the sleeps of a
replay and of a page are not too long. -/
structure Backend.Calm (t : Backend) (pollMs pageMs : Int) : Prop where
  reads : t.engine.ReadsPromptly
  paces : t.clock.Paces pollMs
  pagePaces : t.clock.Paces pageMs

theorem Backend.calm_reacting (c : Reaction) (client : Site → PageRequest → SitePage) (pollMs pageMs : Int) :
    (Backend.reacting c client).Calm pollMs pageMs :=
  ⟨Css.engine_readsPromptly, fun _ _ => rfl, fun _ _ => rfl⟩

namespace StaticWorld
open Precision Handler
open Binary64 (twoPow)
variable {C : Type}

/-- A host of static pages, whatever its callbacks do and whatever it notes of its events. -/
structure Serves (t : Backend) (g : Host StaticWorld PageRef Nat C) : Prop where
  driver : g.toPageDriver = (hostVia t).toPageDriver
  clock : g.toClock = t.clock
  emit : ∀ e w, ∃ log, g.emit e w = { w with log }

theorem hostVia_serves (t : Backend) : Serves t (hostVia t) :=
  ⟨rfl, rfl, fun _ _ => ⟨_, rfl⟩⟩

namespace Serves
variable {t : Backend} {g : Host StaticWorld PageRef Nat C} (serves : Serves t g)
include serves

theorem bind (fields : Fields) : Serves t (g.bind fields) :=
  ⟨serves.driver, serves.clock, fun _ w => serves.emit _ w⟩

theorem precision : g.precision = .double :=
  congrArg Clock.precision serves.clock

theorem now (w : StaticWorld) : g.now w = w.now :=
  congrArg (fun c : Clock StaticWorld => c.now w) serves.clock

theorem sleep : g.sleep = pass :=
  congrArg Clock.sleep serves.clock

theorem refuses (span : Rat) : g.refuses span = t.clock.refuses span :=
  congrArg (fun c : Clock StaticWorld => c.refuses span) serves.clock

theorem blank : g.blank = fun _ => blankUrl :=
  congrArg PageDriver.blank serves.driver

theorem navigate : g.navigate = navigateVia t :=
  congrArg PageDriver.navigate serves.driver

theorem waitFor : g.waitFor = (hostVia t).waitFor :=
  congrArg PageDriver.waitFor serves.driver

theorem queryAll : g.queryAll = StaticWorld.queryAll t.engine :=
  congrArg PageDriver.queryAll serves.driver

theorem extract : g.extract = StaticWorld.extract t.engine :=
  congrArg PageDriver.extract serves.driver

/-- Searches, reads and waits relate what passing time and events relate. -/
theorem reads {R : StaticWorld → StaticWorld → Prop} [IsPreorder StaticWorld R]
    (passes : ∀ seconds w, R w (pass seconds w)) (notes : ∀ w log, R w { w with log }) :
    Replay.ReadMoves R g where
  waitFor r selector timeoutMs root := by
    rw [serves.waitFor]
    exact .bind (moves_await (fun _ _ _ => passes _ _) t r selector timeoutMs root) fun _ => .pure _
  queryAll r selector root := by
    rw [serves.queryAll]
    exact moves_queryAll t.engine r selector root
  extract r root selector attr := by
    rw [serves.extract]
    exact moves_extract t.engine r root selector attr
  sleep seconds w := by
    rw [serves.sleep]
    exact passes seconds w
  emit e w := by
    obtain ⟨log, emitted⟩ := serves.emit e w
    rw [emitted]
    exact notes w log

end Serves

def atTime (w : StaticWorld) (t : Rat) : StaticWorld :=
  { w with now := t }

def Offline (w w' : StaticWorld) : Prop :=
  w'.requests = w.requests ∧ w'.handled = w.handled

theorem pass_of_quiet {w : StaticWorld} (quiet : w.arrivals = []) (seconds : Rat) :
    pass seconds w = w.atTime (double.near (w.now + seconds)) := by
  cases w
  cases quiet
  rfl

theorem rootOf_runOn (r : PageRef) (root : Option Nat) (w : StaticWorld) :
    (rootOf r root).runOn w = (((page r).runOn w).1.map fun p => root.getD p.document, w) := by
  cases r with
  | nothing => rfl
  | page n =>
    simp only [rootOf, page, Act.runOn_bind, Act.runOn_get]
    cases w.pages[n]? <;> rfl

theorem page_still (r : PageRef) (w : StaticWorld) :
    (page r).runOn w = (((page r).runOn w).1, w) := by
  cases r with
  | nothing => rfl
  | page n =>
    simp only [page, Act.runOn_bind, Act.runOn_get]
    cases w.pages[n]? <;> rfl

theorem page_atTime (w : StaticWorld) (t : Rat) (r : PageRef) :
    ((page r).runOn (w.atTime t)).1 = ((page r).runOn w).1 := by
  cases r with
  | nothing => rfl
  | page n =>
    simp only [page, Act.runOn_bind, Act.runOn_get, atTime]
    cases w.pages[n]? <;> rfl

/-- What a page shows below a root at this moment: the first match, if any. -/
def glanced (engine : Css.Engine) (w : StaticWorld) (r : PageRef) (selector : String) (root : Option Nat) :
    Except Failure (Option Nat) := do
  let p ← ((page r).runOn w).1
  let pick ← engine selector
  return w.first? pick (root.getD p.document)

theorem glanced_atTime (engine : Css.Engine) (w : StaticWorld) (t : Rat) (r : PageRef) (selector : String)
    (root : Option Nat) : glanced engine (w.atTime t) r selector root = glanced engine w r selector root := by
  unfold glanced
  rw [page_atTime]
  rfl

/-- How long a wait is to sleep between two looks. -/
def paced (w : StaticWorld) (r : PageRef) : Except Failure Rat := do
  let _ ← ((page r).runOn w).1
  double.seconds (max w.pollIntervalMs 1)

/-- What a wait sees at once. -/
def searched (engine : Css.Engine) (w : StaticWorld) (r : PageRef) (selector : String) (root : Option Nat) :
    Except Failure (Option Nat) := do
  let _ ← paced w r
  glanced engine w r selector root

theorem searched_atTime (engine : Css.Engine) (w : StaticWorld) (t : Rat) (r : PageRef) (selector : String)
    (root : Option Nat) : searched engine (w.atTime t) r selector root = searched engine w r selector root := by
  unfold searched paced
  rw [page_atTime, glanced_atTime]
  rfl

theorem prompt_page (r : PageRef) (w : StaticWorld) : Prompt ((page r).runOn w).1 := by
  cases r with
  | nothing => exact fun _ same => by cases same; rfl
  | page n =>
    simp only [page, Act.runOn_bind, Act.runOn_get]
    cases w.pages[n]? with
    | none => exact fun _ same => by cases same; rfl
    | some p => exact FailsWith.ok p

theorem prompt_seconds (p : Precision) (ms : Int) : Prompt (p.seconds ms) := by
  unfold Precision.seconds
  split
  · exact fun _ same => by cases same; rfl
  · exact FailsWith.ok _

theorem prompt_searched {engine : Css.Engine} (reads : engine.ReadsPromptly) (w : StaticWorld) (r : PageRef)
    (selector : String) (root : Option Nat) : Prompt (searched engine w r selector root) :=
  FailsWith.bind (FailsWith.bind (prompt_page r w) fun _ => prompt_seconds _ _) fun _ =>
    FailsWith.bind (prompt_page r w) fun _ => FailsWith.bind (reads _) fun _ => .ok _

theorem nonneg_of_paced {w : StaticWorld} {r : PageRef} {interval : Rat}
    (paced : paced w r = .ok interval) : 0 ≤ interval := by
  obtain ⟨p, -, told⟩ := bind_ok_iff.mp paced
  exact interval_nonneg told

theorem glance_runOn (engine : Css.Engine) (w : StaticWorld) (r : PageRef) (selector : String)
    (root : Option Nat) : (glance engine r selector root).runOn w = (glanced engine w r selector root, w) := by
  unfold glanced
  simp only [glance, Act.runOn_bind, rootOf_runOn]
  cases ((page r).runOn w).1 with
  | error f => rfl
  | ok p =>
    cases engine selector with
    | error f => rfl
    | ok s => rfl

section Await
variable {t : Backend} {w : StaticWorld} {r : PageRef} {selector : String} {root : Option Nat} {ms : Int}
  {timeout : Rat}

/-- A watch for what is not there ends in time, which is all that passes. -/
theorem poll_expired {interval : Rat} (nonneg : 0 ≤ interval) (taken : t.clock.refuses interval = false)
    (deadline : Rat) (expired : Failure) (n : Nat) (missing : glanced t.engine w r selector root = .ok none)
    (quiet : w.arrivals = []) (on : -twoPow 900 ≤ w.now) :
    ∃ time, -twoPow 900 ≤ time ∧
      ((watchVia t.engine t.clock r selector root).poll interval deadline expired n).runOn w =
        (.error expired, w.atTime time) := by
  induction n generalizing w with
  | zero => exact ⟨w.now, on, rfl⟩
  | succ n ih =>
    have missed := glance_runOn t.engine w r selector root
    rw [missing] at missed
    by_cases late : precision.near (deadline - w.now) ≤ 0
    · exact ⟨w.now, on, Watch.poll_over missed late n⟩
    · have early := not_le.mp late
      have forward := shorter_nonneg nonneg early.le
      have slept := pass_of_quiet quiet (shorter interval (precision.near (deadline - w.now)))
      have still := glanced_atTime t.engine w
        (double.near (w.now + shorter interval (precision.near (deadline - w.now)))) r selector root
      obtain ⟨time, later, run⟩ := ih (w := w.atTime _) (still.trans missing) quiet
        (le_near (by decide) (by linarith))
      refine ⟨time, later, (Watch.poll_again missed early
        (Clock.takes_of_le taken (shorter_le_left interval _)) n).trans ?_⟩
      dsimp only [watchVia, Backend.clock]
      rw [slept]
      exact run

variable (told : double.seconds ms = .ok timeout)
include told

variable (t) (w) (r) (selector) (root) in
theorem await_runOn : ∃ (deadline : Rat) (rounds : Rat → Nat), (await t r selector ms root).runOn w =
    (Act.ofExcept (paced w r) >>= fun interval =>
      (watchVia t.engine t.clock r selector root).poll interval deadline
        (Cause.waitExpired (Cause.waitMessage selector (toString ms))) (rounds interval + 1)).runOn w := by
  -- the round before the others, which there is whatever the timeout
  refine ⟨double.near (w.now + timeout),
    fun interval => Watch.rounds interval (double.near (w.now + timeout) - w.now) - 1, ?_⟩
  unfold paced
  rw [await, awaitVia, Act.runOn_bind, Act.runOn_bind, Act.runOn_ofExcept, page_still]
  cases ((page r).runOn w).1 with
  | error f => rfl
  | ok p =>
    simp only [Watch.await, watchVia, Backend.clock, Act.runOn_bind, Act.runOn_get, Act.runOn_ofExcept, precision,
      told]
    cases told' : double.seconds (max w.pollIntervalMs 1) with
    | error f => rfl
    | ok interval =>
      have often := Watch.one_le_rounds (double.near (w.now + timeout) - w.now) (interval_nonneg told')
      dsimp only [bind, Except.bind]
      rw [Nat.sub_add_cancel often]

theorem await_failed {f : Failure} (failed : searched t.engine w r selector root = .error f) :
    (await t r selector ms root).runOn w = (.error f, w) := by
  obtain ⟨deadline, rounds, run⟩ := await_runOn t w r selector root told
  rw [run, Act.runOn_bind, Act.runOn_ofExcept]
  unfold searched at failed
  cases pace : paced w r with
  | error f' =>
    rw [pace] at failed
    cases failed
    rfl
  | ok interval =>
    rw [pace] at failed
    have looked : (glance t.engine r selector root).runOn w = (.error f, w) :=
      (glance_runOn t.engine w r selector root).trans (Prod.ext failed rfl)
    exact Watch.poll_failed looked _

theorem await_found {i : Nat} (found : searched t.engine w r selector root = .ok (some i)) :
    (await t r selector ms root).runOn w = (.ok i, w) := by
  obtain ⟨deadline, rounds, run⟩ := await_runOn t w r selector root told
  obtain ⟨interval, pace, first⟩ := bind_ok_iff.mp found
  have looked := glance_runOn t.engine w r selector root
  rw [first] at looked
  rw [run, Act.runOn_bind, Act.runOn_ofExcept, pace]
  exact Watch.poll_found looked _

theorem await_expired (paces : t.clock.Paces w.pollIntervalMs)
    (missing : searched t.engine w r selector root = .ok none) (quiet : w.arrivals = [])
    (on : -twoPow 900 ≤ w.now) :
    ∃ time, -twoPow 900 ≤ time ∧ (await t r selector ms root).runOn w =
      (.error (Cause.waitExpired (Cause.waitMessage selector (toString ms))), w.atTime time) := by
  obtain ⟨deadline, rounds, run⟩ := await_runOn t w r selector root told
  obtain ⟨interval, pace, first⟩ := bind_ok_iff.mp missing
  obtain ⟨-, -, interval_told⟩ := bind_ok_iff.mp pace
  rw [run, Act.runOn_bind, Act.runOn_ofExcept, pace]
  exact poll_expired (nonneg_of_paced pace) (paces interval interval_told) deadline _ _ first quiet on

end Await
section Attempts
variable {t : Backend} {g : Host StaticWorld PageRef Nat C} (serves : Serves t g) {w : StaticWorld}
  {r : PageRef} {root : Option Nat} {ms : Int}
include serves

theorem waitFor_runOn {selector : String} {out : Except Failure Nat} {w' : StaticWorld}
    (run : (await t r selector ms root).runOn w = (out, w')) :
    (g.waitFor r selector ms root).runOn w = (out.map fun _ => ⟨⟩, w') := by
  rw [serves.waitFor]
  dsimp only [hostVia]
  rw [Act.runOn_bind, run]
  cases out with
  | error f => rfl
  | ok i => rfl

variable (wait : Wait) (told : callTimeout double wait.deadline w.now = .ok ms)
include told

theorem callTimeout_now : callTimeout g.precision wait.deadline (g.now w) = .ok ms := by
  rw [serves.precision, serves.now, told]

theorem attempt_found {i : Nat} (found : searched t.engine w r wait.selector root = .ok (some i)) :
    (attempt g wait r root).runOn w = (.ok none, w) := by
  obtain ⟨timeout, told', -⟩ := seconds_of_callTimeout told
  exact Replay.attempt_found (callTimeout_now serves wait told) (waitFor_runOn serves (await_found told' found))

theorem attempt_failed (reads : t.engine.ReadsPromptly) {f : Failure}
    (failed : searched t.engine w r wait.selector root = .error f) :
    (attempt g wait r root).runOn w = (.error f, w) := by
  obtain ⟨timeout, told', -⟩ := seconds_of_callTimeout told
  have answered := waitFor_runOn serves (await_failed told' failed)
  have prompt : f.cause.isTimeout = false := prompt_searched reads w r wait.selector root f failed
  exact Replay.attempt_raised (callTimeout_now serves wait told) answered prompt

end Attempts

section Waits
variable {t : Backend} {g : Host StaticWorld PageRef Nat C} (serves : Serves t g)
include serves

theorem giveUp_runOn (wait : Wait) (w : StaticWorld) :
    ∃ w', (giveUp g wait).runOn w = (.error wait.expired, w') ∧ Offline w w' := by
  obtain ⟨log, emitted⟩ := serves.emit
    ⟨.warning, "wait_for.timeout", [("selector", .text wait.selector),
      ("timeout_ms", .int wait.timeoutMs)]⟩ w
  refine ⟨{ w with log }, ?_, rfl, rfl⟩
  rw [giveUp, Act.runOn_bind, Replay.runOn_log, emitted]
  rfl

/-- What is not there does not come while nobody visits the page. -/
theorem inVain (w : StaticWorld) (r : PageRef) (selector : String) (root : Option Nat) {pageMs : Int}
    (paces : t.clock.Paces pageMs) :
    Replay.InVain g r selector root fun v => Offline w v ∧ searched t.engine v r selector root = .ok none ∧
      v.arrivals = [] ∧ -twoPow 900 ≤ v.now ∧ v.pollIntervalMs = pageMs where
  precision := serves.precision
  expires := by
    rintro v ms ⟨offline, missing, quiet, on, rfl⟩ ask
    obtain ⟨span, told⟩ := ask.told
    obtain ⟨time, later, run⟩ := await_expired told paces missing quiet on
    refine ⟨_, _, waitFor_runOn serves run, rfl, offline, ?_, quiet, later, rfl⟩
    rw [searched_atTime, missing]
  sleeps := by
    rintro v span ⟨offline, missing, quiet, on, rfl⟩ positive
    rw [serves.sleep, pass_of_quiet quiet]
    refine ⟨offline, ?_, quiet, le_near (by decide) (by linarith), rfl⟩
    rw [searched_atTime, missing]
  on := by
    rintro v ⟨-, -, -, on, -⟩
    rw [serves.now]
    exact on
  slept := by
    rintro v span ⟨-, -, quiet, -⟩ -
    rw [serves.now, serves.now, serves.sleep, pass_of_quiet quiet]
    exact le_max_right _ _

/-- Waiting for what is not there ends with the failure of the wait, if the remaining time can be told
whenever the page is asked again. -/
theorem waitIn_expired (wait : Wait) {r : PageRef} {root : Option Nat} (positive : 0 ≤ wait.poll)
    (taken : t.clock.refuses wait.poll = false) (retold : Replay.Retold wait) (n : Nat) {w : StaticWorld}
    (paces : t.clock.Paces w.pollIntervalMs) {ms : Int}
    (told : callTimeout double wait.deadline w.now = .ok ms)
    (missing : searched t.engine w r wait.selector root = .ok none) (quiet : w.arrivals = [])
    (on : -twoPow 900 ≤ w.now) :
    ∃ w', (waitIn g wait r root n).runOn w = (.error wait.expired, w') ∧ Offline w w' := by
  have vain := inVain serves w r wait.selector root paces
  rw [← serves.now] at told
  rw [← serves.refuses] at taken
  obtain ⟨w₁, there, tried⟩ := vain.attempt_expired ⟨⟨rfl, rfl⟩, missing, quiet, on, rfl⟩ told
  obtain ⟨w₂, ⟨offline, -⟩, run⟩ := vain.waitIn_gives_up positive taken retold n there tried
  obtain ⟨w', gaveUp, later⟩ := giveUp_runOn serves wait w₂
  rw [run, gaveUp]
  exact ⟨w', rfl, later.1.trans offline.1, later.2.trans offline.2⟩

/-- What waiting under a root comes to, while the page stays as it is. -/
def attended (engine : Css.Engine) (w : StaticWorld) (d : Defaults) (r : PageRef) (selector : String) (timeoutMs : Int)
    (span : Rat) (root : Option Nat) : Except Failure Unit := do
  let _ ← double.seconds (max d.pollIntervalMs 1)
  let _ ← double.milliseconds span
  match ← searched engine w r selector root with
  | some _ => return
  | none => .error (Cause.selectorTimeout (.text selector) (.int timeoutMs))

/-- A wait under one root. If it succeeds, nothing has happened, and no time has passed. -/
theorem waitUnder_runOn (d : Defaults) (r : PageRef) (selector : String) {timeoutMs : Int} {span : Rat}
    (told : double.seconds timeoutMs = .ok span) {w : StaticWorld}
    (calm : t.Calm d.pollIntervalMs w.pollIntervalMs) (quiet : w.arrivals = []) (timely : Timely w.now)
    (root : Option Nat) :
    ∃ w', (waitUnder g d selector timeoutMs (double.near (w.now + span)) r root).runOn w =
        (attended t.engine w d r selector timeoutMs span root, w') ∧
      Offline w w' ∧ (attended t.engine w d r selector timeoutMs span root = .ok ⟨⟩ → w' = w) := by
  have on : -twoPow 900 ≤ w.now := (abs_le.mp timely).1
  unfold waitUnder attended
  rw [Act.runOn_bind, Act.runOn_ofExcept, serves.precision]
  cases interval : double.seconds (max d.pollIntervalMs 1) with
  | error f => exact ⟨w, rfl, ⟨rfl, rfl⟩, fun _ => rfl⟩
  | ok poll =>
    dsimp only
    rw [Act.runOn_bind, Replay.runOn_time]
    dsimp only
    generalize retryBound _ _ = n
    let wait : Wait := ⟨selector, timeoutMs, double.near (w.now + span), poll⟩
    -- whether any call can be made is a matter of the timeout alone, not of the instant
    cases plain : double.milliseconds span with
    | error f =>
      have untold : callTimeout double wait.deadline w.now = .error f :=
        callTimeout_untold told timely plain timely
      have failed : (attempt g wait r root).runOn w = (.error f, w) :=
        Replay.attempt_untold (by rw [serves.precision, serves.now, untold])
      exact ⟨w, Replay.waitIn_failed failed n, ⟨rfl, rfl⟩, fun _ => rfl⟩
    | ok x =>
      obtain ⟨ms, start⟩ := callTimeout_at told timely plain timely
      cases search : searched t.engine w r selector root with
      | error f =>
        have failed := attempt_failed serves wait start calm.reads search
        exact ⟨w, Replay.waitIn_failed failed n, ⟨rfl, rfl⟩, fun _ => rfl⟩
      | ok out =>
        cases out with
        | some i =>
          have found := attempt_found serves wait start search
          exact ⟨w, Replay.waitIn_found found n, ⟨rfl, rfl⟩, fun _ => rfl⟩
        | none =>
          obtain ⟨w', run, offline⟩ := waitIn_expired serves wait (interval_nonneg interval)
            (calm.paces poll interval) (callTimeout_after_sleep told timely plain) n calm.pagePaces start search
            quiet on
          exact ⟨w', run, offline, fun never => by cases never⟩

/-- A wait under each root in turn. Only the last of them can have passed time, by failing. -/
theorem waitInAll_runOn (d : Defaults) (r : PageRef) (selector : String) {timeoutMs : Int} {span : Rat}
    (told : double.seconds timeoutMs = .ok span) {w : StaticWorld}
    (calm : t.Calm d.pollIntervalMs w.pollIntervalMs) (quiet : w.arrivals = []) (timely : Timely w.now)
    (roots : List (Option Nat)) :
    ∃ w', (waitInAll g d selector timeoutMs (double.near (w.now + span)) r roots).runOn w =
        ((roots.mapM (attended t.engine w d r selector timeoutMs span)).map fun _ => ⟨⟩, w') ∧
      Offline w w' ∧
      ∀ done, roots.mapM (attended t.engine w d r selector timeoutMs span) = .ok done → w' = w := by
  induction roots with
  | nil => exact ⟨w, rfl, ⟨rfl, rfl⟩, fun _ _ => rfl⟩
  | cons root rest ih =>
    obtain ⟨v, run, offline, kept⟩ := waitUnder_runOn serves d r selector told calm quiet timely root
    rw [waitInAll, Act.runOn_bind, run, List.mapM_cons]
    cases here : attended t.engine w d r selector timeoutMs span root with
    | error f =>
      refine ⟨v, rfl, offline, ?_⟩
      intro done never
      cases never
    | ok _ =>
      cases kept here
      obtain ⟨w', others, offline, kept⟩ := ih
      refine ⟨w', ?_, offline, ?_⟩
      · dsimp only
        rw [others]
        cases rest.mapM (attended t.engine w d r selector timeoutMs span) <;> rfl
      · intro done made
        obtain ⟨_, -, made⟩ := bind_ok_iff.mp made
        obtain ⟨more, later, -⟩ := bind_ok_iff.mp made
        exact kept more later

end Waits
section Pairs
variable {t t' : Backend} {g g' : Host StaticWorld PageRef Nat C} (serves : Serves t g)
  (serves' : Serves t' g') {d : Defaults} {r r' : PageRef} {selector : String} {w w' : StaticWorld}
  (calm : t.Calm d.pollIntervalMs w.pollIntervalMs) (calm' : t'.Calm d.pollIntervalMs w'.pollIntervalMs)
  (quiet : w.arrivals = []) (quiet' : w'.arrivals = []) (timely : Timely w.now) (timely' : Timely w'.now)
include serves serves' calm calm' quiet quiet' timely timely'

/-- Two waits are alike, whenever they begin, if the pages show the same under each root. -/
theorem waitInAll_alike {timeoutMs : Int} {span : Rat} (told : double.seconds timeoutMs = .ok span)
    {roots roots' : List (Option Nat)}
    (same : List.Forall₂ (fun root root' => attended t.engine w d r selector timeoutMs span root =
      attended t'.engine w' d r' selector timeoutMs span root') roots roots') :
    Act.Outcomes (fun v v' => Offline w v ∧ Offline w' v') (fun _ _ v v' => v = w ∧ v' = w')
      ((waitInAll g d selector timeoutMs (double.near (w.now + span)) r roots).runOn w)
      ((waitInAll g' d selector timeoutMs (double.near (w'.now + span)) r' roots').runOn w') := by
  obtain ⟨v, run, offline, kept⟩ := waitInAll_runOn serves d r selector told calm quiet timely roots
  obtain ⟨v', run', offline', kept'⟩ := waitInAll_runOn serves' d r' selector told calm' quiet' timely' roots'
  rw [run, run']
  rw [mapM_congr same] at kept ⊢
  cases out : roots'.mapM (attended t'.engine w' d r' selector timeoutMs span) with
  | error f => exact .failed ⟨offline, offline'⟩
  | ok done => exact .done ⟨kept done out, kept' done out⟩

theorem waitStep_alike (requested : Value) {state state' : ReplayState PageRef Nat} (page : state.page = r)
    (page' : state'.page = r')
    (same : ∀ timeoutMs span, List.Forall₂ (fun root root' => attended t.engine w d r selector timeoutMs span root =
      attended t'.engine w' d r' selector timeoutMs span root') state.scope.roots state'.scope.roots) :
    Act.Outcomes (fun v v' => Offline w v ∧ Offline w' v')
      (fun next next' v v' => next = state ∧ next' = state' ∧ v = w ∧ v' = w')
      ((waitStep g d selector requested state).runOn w)
      ((waitStep g' d selector requested state').runOn w') := by
  subst page
  subst page'
  unfold waitStep
  simp only [Act.runOn_bind, Act.runOn_ofExcept, Replay.runOn_time, serves.now, serves'.now,
    serves.precision, serves'.precision]
  cases effectiveTimeout d requested with
  | error f => exact .failed ⟨⟨rfl, rfl⟩, ⟨rfl, rfl⟩⟩
  | ok timeoutMs =>
    dsimp only
    cases told : double.seconds timeoutMs with
    | error f => exact .failed ⟨⟨rfl, rfl⟩, ⟨rfl, rfl⟩⟩
    | ok span =>
      have waited := waitInAll_alike serves serves' calm calm' quiet quiet' timely timely' told
        (same timeoutMs span)
      dsimp only
      generalize (waitInAll g d selector timeoutMs _ state.page _).runOn w = out at waited ⊢
      generalize (waitInAll g' d selector timeoutMs _ state'.page _).runOn w' = out' at waited ⊢
      cases waited with
      | failed offline => exact .failed offline
      | done unchanged => exact .done ⟨rfl, rfl, unchanged⟩

end Pairs
end StaticWorld
end PageHarvest

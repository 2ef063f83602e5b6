import Mathlib.Algebra.Order.Floor.Semiring
import PageHarvest.Proofs.Replay.Attempts
import PageHarvest.Proofs.Replay.Deadline
import PageHarvest.Proofs.Replay.Watching

/-!
How often a wait asks and sleeps. Pages may give up at once and for ever, or answer long after the time
that they were given: every sleep uses up an interval of what remains before the deadline, or all of it,
and all roots share that one deadline.
-/
namespace PageHarvest
variable {W P H C α β : Type}

/-- What a wait does, with the answer of the page, or with the instant at which the page gave up. -/
inductive Deed (H : Type) where
  | found (root : Option H)
  | missed (root : Option H) (ended : Rat)
  | slept (span : Rat)

namespace Deed

/-- A call under a root, by what it came to. -/
def call (root : Option H) (ended : Rat) : Except Failure Unit → Deed H
  | .ok _ => found root
  | .error _ => missed root ended

def isCall : Deed H → Bool
  | slept _ => false
  | _ => true

def isSleep : Deed H → Bool
  | slept _ => true
  | _ => false

end Deed

/-- A world with the deeds so far, oldest first. -/
abbrev Chronicle (W H : Type) := W × List (Deed H)

/-- Acts on the world of a chronicle. -/
def Chronicle.within (act : Act W α) : Act (Chronicle W H) α :=
  ExceptT.mk fun v => let (out, w) := act.runOn v.1; (out, w, v.2)

namespace Host

/-- The same pages and clock, with a chronicle of waits. -/
def chronicled (h : Host W P H C) : Host (Chronicle W H) P H C where
  blank := h.blank
  navigate page visit := Chronicle.within (h.navigate page visit)
  waitFor page selector ms root := ExceptT.mk fun v =>
    let (out, w) := (h.waitFor page selector ms root).runOn v.1
    (out, w, v.2 ++ [Deed.call root (h.now w) out])
  queryAll page selector root := Chronicle.within (h.queryAll page selector root)
  extract page root selector attr := Chronicle.within (h.extract page root selector attr)
  precision := h.precision
  now v := h.now v.1
  sleep span v := (h.sleep span v.1, v.2 ++ [.slept span])
  longestSleep := h.longestSleep
  emit e v := (h.emit e v.1, v.2)
  call callback page items := Chronicle.within (h.call callback page items)
  samePage := h.samePage

end Host

namespace Replay
open Handler

/-- One action does what the other does, and adds `deeds` to the chronicle. -/
def Chronicles (act : Act W α) (act' : Act (Chronicle W H) α) (w : W) (deeds : List (Deed H))
    (out : Except Failure α) (w' : W) : Prop :=
  act.runOn w = (out, w') ∧ ∀ before, act'.runOn (w, before) = (out, w', before ++ deeds)

namespace Chronicles
variable {w w₁ w₂ : W} {deeds more : List (Deed H)} {act : Act W α} {act' : Act (Chronicle W H) α}
  {next : α → Act W β} {next' : α → Act (Chronicle W H) β}

theorem pure (x : α) (w : W) : Chronicles (H := H) (Pure.pure x) (Pure.pure x) w [] (.ok x) w :=
  ⟨rfl, fun before => congrArg (Except.ok x, w, ·) (List.append_nil before).symm⟩

theorem bind {x : α} {out : Except Failure β} (first : Chronicles act act' w deeds (.ok x) w₁)
    (second : Chronicles (next x) (next' x) w₁ more out w₂) :
    Chronicles (act >>= next) (act' >>= next') w (deeds ++ more) out w₂ := by
  refine ⟨?_, fun before => ?_⟩
  · rw [Act.runOn_bind, first.1]
    exact second.1
  · rw [Act.runOn_bind, first.2, ← List.append_assoc]
    exact second.2 _

theorem bind_error {f : Failure} (first : Chronicles act act' w deeds (.error f) w₁) :
    Chronicles (act >>= next) (act' >>= next') w deeds (.error f) w₁ := by
  refine ⟨?_, fun before => ?_⟩
  · rw [Act.runOn_bind, first.1]
  · rw [Act.runOn_bind, first.2]

/-- A step without deeds leads on to one with the deeds that the whole has. -/
theorem silently {x : α} {out : Except Failure β} (first : Chronicles act act' w [] (.ok x) w₁)
    (second : Chronicles (next x) (next' x) w₁ deeds out w₂) :
    Chronicles (act >>= next) (act' >>= next') w deeds out w₂ :=
  first.bind second

/-- A step with the deeds that the whole has leads on to one without any. -/
theorem lastly {x : α} {out : Except Failure β} (first : Chronicles act act' w deeds (.ok x) w₁)
    (second : Chronicles (next x) (next' x) w₁ [] out w₂) :
    Chronicles (act >>= next) (act' >>= next') w deeds out w₂ := by
  have both := first.bind second
  rw [List.append_nil] at both
  exact both

end Chronicles

/-- What a wait comes to. -/
def concluded (expired : Failure) (a : α) (found : Bool) : Except Failure α :=
  if found then .ok a else .error expired

/-- How many sleeps are left before a deadline. -/
def naps (deadline interval now : Rat) : Nat :=
  ⌈(deadline - now) / interval⌉₊

section Naps
variable {deadline interval now woken : Rat} (positive : 0 < interval)
include positive

theorem naps_eq_zero_iff : naps deadline interval now = 0 ↔ deadline ≤ now := by
  rw [naps, Nat.ceil_eq_zero, div_le_iff₀ positive, zero_mul, sub_nonpos]

theorem naps_le (later : now ≤ woken) : naps deadline interval woken ≤ naps deadline interval now := by
  refine Nat.ceil_le_ceil (div_le_div_of_nonneg_right ?_ positive.le)
  linarith

/-- A sleep before the deadline is one fewer that is left. -/
theorem naps_after_sleep (early : now < deadline)
    (slept : now + shorter interval (deadline - now) ≤ woken) :
    naps deadline interval woken + 1 ≤ naps deadline interval now := by
  unfold shorter at slept
  split at slept
  · rename_i short
    have nonneg : 0 ≤ (deadline - (now + interval)) / interval :=
      div_nonneg (by linarith) positive.le
    have once : (deadline - now) / interval = (deadline - (now + interval)) / interval + 1 := by
      field_simp
      ring
    have fewer : naps deadline interval woken ≤ naps deadline interval (now + interval) :=
      naps_le positive slept
    rw [naps, naps, once, Nat.ceil_add_one nonneg]
    exact Nat.add_le_add_right fewer 1
  · have past : naps deadline interval woken = 0 :=
      (naps_eq_zero_iff positive).mpr (by linarith)
    have some : naps deadline interval now ≠ 0 := fun none =>
      absurd ((naps_eq_zero_iff positive).mp none) (not_le.mpr early)
    omega

end Naps

/-- Waiting under one root, as its deeds tell it: the page is asked until it finds the selector or gives up
past the deadline, and after every call before that there is a sleep. -/
inductive Sought (deadline interval : Rat) (root : Option H) : List (Deed H) → Bool → Prop where
  | found : Sought deadline interval root [.found root] true
  | expired {ended} (late : deadline ≤ ended) : Sought deadline interval root [.missed root ended] false
  | again {ended deeds found} (early : ended < deadline)
      (later : Sought deadline interval root deeds found) : Sought deadline interval root
        (.missed root ended :: .slept (shorter interval (deadline - ended)) :: deeds) found

/-- Waiting under roots in turn, as far as the selector is found. -/
inductive SoughtAll (deadline interval : Rat) : List (Option H) → List (Deed H) → Bool → Prop where
  | nil : SoughtAll deadline interval [] [] true
  | next {root rest deeds more found} (first : Sought deadline interval root deeds true)
      (others : SoughtAll deadline interval rest more found) :
      SoughtAll deadline interval (root :: rest) (deeds ++ more) found
  | stop {root rest deeds} (failed : Sought deadline interval root deeds false) :
      SoughtAll deadline interval (root :: rest) deeds false

/-- What deeds under some roots cost: one call for each root and each sleep, and the sleeps that are no longer
left at the end. -/
structure Spent (deadline interval start finish : Rat) (roots : Nat) (deeds : List (Deed H)) : Prop where
  calls : deeds.countP Deed.isCall ≤ deeds.countP Deed.isSleep + roots
  sleeps : deeds.countP Deed.isSleep + naps deadline interval finish ≤ naps deadline interval start

theorem Spent.call {deadline interval start finish : Rat} (positive : 0 < interval) (onward : start ≤ finish)
    {deed : Deed H} (call : deed.isSleep = false) : Spent deadline interval start finish 1 [deed] := by
  constructor
  · exact (List.countP_le_length).trans (Nat.le_add_left _ _)
  · rw [List.countP_singleton, call]
    simpa using naps_le positive onward

/-- A call that misses before the deadline goes with a sleep. -/
theorem Spent.again {deadline interval start woken finish : Rat} {roots : Nat} {deeds : List (Deed H)}
    (fewer : naps deadline interval woken + 1 ≤ naps deadline interval start)
    (later : Spent deadline interval woken finish roots deeds) {root : Option H} {ended span : Rat} :
    Spent deadline interval start finish roots (.missed root ended :: .slept span :: deeds) := by
  have calls := later.calls
  have sleeps := later.sleeps
  constructor
  · simp only [List.countP_cons, Deed.isCall, Deed.isSleep, if_true, Bool.false_eq_true, if_false]
    omega
  · simp only [List.countP_cons, Deed.isSleep, if_true, Bool.false_eq_true, if_false]
    omega

theorem Spent.append {deadline interval start middle finish : Rat} {roots more : Nat}
    {deeds later : List (Deed H)} (first : Spent deadline interval start middle roots deeds)
    (second : Spent deadline interval middle finish more later) :
    Spent deadline interval start finish (roots + more) (deeds ++ later) := by
  have calls := first.calls
  have calls' := second.calls
  have sleeps := first.sleeps
  have sleeps' := second.sleeps
  constructor
  · rw [List.countP_append, List.countP_append]
    omega
  · rw [List.countP_append]
    omega

/-- Pages whose calls find the selector or time out, whenever they do, by an exact clock that does not go
back. -/
structure Yielding (h : Host W P H C) (page : P) (selector : String) : Prop where
  exact : h.precision = .exact
  slept : ∀ span w, 0 ≤ span → h.now w + span ≤ h.now (h.sleep span w)
  onward : ∀ ms root w, h.now w ≤ h.now ((h.waitFor page selector ms root).runOn w).2
  timesOut : ∀ ms root w w' f, (h.waitFor page selector ms root).runOn w = (.error f, w') →
    f.cause.isTimeout = true

section
variable {h : Host W P H C}

theorem chronicles_time (w : W) : Chronicles h.time h.chronicled.time w [] (.ok (h.now w)) w :=
  ⟨rfl, fun before => congrArg (Except.ok (h.now w), w, ·) (List.append_nil before).symm⟩

theorem chronicles_ofExcept (out : Except Failure α) (w : W) :
    Chronicles (H := H) (Act.ofExcept out) (Act.ofExcept out) w [] out w :=
  ⟨rfl, fun before => congrArg (out, w, ·) (List.append_nil before).symm⟩

theorem chronicles_rest {span : Rat} (taken : h.refuses span = false) (w : W) : Chronicles (h.rest span)
    (h.chronicled.rest span) w [.slept span] (.ok ⟨⟩) (h.sleep span w) := by
  rw [Clock.rest_of_takes taken, Clock.rest_of_takes (c := h.chronicled.toClock) taken]
  exact ⟨rfl, fun _ => rfl⟩

theorem chronicled_waitFor {page : P} {selector : String} {ms : Int} {root : Option H} {w w₁ : W}
    {out : Except Failure Unit} (run : (h.waitFor page selector ms root).runOn w = (out, w₁))
    (before : List (Deed H)) : (h.chronicled.waitFor page selector ms root).runOn (w, before) =
      (out, w₁, before ++ [Deed.call root (h.now w₁) out]) := by
  have called : (h.chronicled.waitFor page selector ms root).runOn (w, before) =
      (((h.waitFor page selector ms root).runOn w).1, ((h.waitFor page selector ms root).runOn w).2,
        before ++ [Deed.call root (h.now ((h.waitFor page selector ms root).runOn w).2)
          ((h.waitFor page selector ms root).runOn w).1]) := rfl
  rw [called, run]

theorem chronicles_giveUp (wait : Wait) (w : W) :
    ∃ w', Chronicles (giveUp h wait) (giveUp h.chronicled wait) w [] (.error wait.expired) w' :=
  ⟨_, rfl, fun before => congrArg (Except.error wait.expired, _, ·) (List.append_nil before).symm⟩

end

section
variable {h : Host W P H C} {page : P} {wait : Wait} (yielding : Yielding h page wait.selector)
include yielding

/-- An attempt is one call. -/
theorem chronicles_attempt (root : Option H) (w : W) : ∃ w₁, h.now w ≤ h.now w₁ ∧
    (Chronicles (attempt h wait page root) (attempt h.chronicled wait page root) w [.found root]
        (.ok none) w₁ ∨
      Chronicles (attempt h wait page root) (attempt h.chronicled wait page root) w
        [.missed root (h.now w₁)] (.ok (some (wait.deadline - h.now w₁))) w₁) := by
  obtain ⟨ms, told⟩ : ∃ ms, callTimeout h.precision wait.deadline (h.now w) = .ok ms := by
    rw [yielding.exact]
    exact ⟨_, rfl⟩
  have told' (before : List (Deed H)) :
      callTimeout h.chronicled.precision wait.deadline (h.chronicled.now (w, before)) = .ok ms := told
  have onward := yielding.onward ms root w
  rcases run : (h.waitFor page wait.selector ms root).runOn w with ⟨f | ⟨⟨⟩⟩, w₁⟩
  · rw [run] at onward
    have late := yielding.timesOut ms root w w₁ f run
    have left : h.precision.near (wait.deadline - h.now w₁) = wait.deadline - h.now w₁ := by
      rw [yielding.exact]
      rfl
    refine ⟨w₁, onward, .inr ?_⟩
    rw [← left]
    exact ⟨attempt_expired told run late, fun before =>
      attempt_expired (told' before) (chronicled_waitFor run before) late⟩
  · rw [run] at onward
    exact ⟨w₁, onward, .inl ⟨attempt_found told run, fun before =>
      attempt_found (told' before) (chronicled_waitFor run before)⟩⟩

/-- There are retries for all sleeps that are left, so the page is asked until the deadline has passed. -/
theorem chronicles_waitIn (positive : 0 < wait.poll) (paces : h.refuses wait.poll = false)
    (root : Option H) (n : Nat) (w : W) (enough : naps wait.deadline wait.poll (h.now w) ≤ n) :
    ∃ deeds found finish w',
    Chronicles (waitIn h wait page root n) (waitIn h.chronicled wait page root n) w deeds
      (concluded wait.expired ⟨⟩ found) w' ∧
    Sought wait.deadline wait.poll root deeds found ∧
    Spent wait.deadline wait.poll (h.now w) finish 1 deeds ∧ (found = true → finish = h.now w') := by
  induction n generalizing w with
  | zero =>
    obtain ⟨w₁, onward, found | missed⟩ := chronicles_attempt yielding root w
    · exact ⟨_, true, _, w₁, found.lastly (.pure () w₁), .found, .call positive onward rfl, fun _ => rfl⟩
    · have past := (naps_eq_zero_iff positive).mp (Nat.le_zero.mp enough)
      obtain ⟨w', gaveUp⟩ := chronicles_giveUp wait w₁
      exact ⟨_, false, _, w', missed.lastly gaveUp, .expired (past.trans onward), .call positive onward rfl,
        nofun⟩
  | succ n ih =>
    obtain ⟨w₁, onward, found | missed⟩ := chronicles_attempt yielding root w
    · exact ⟨_, true, _, w₁, found.lastly (.pure () w₁), .found, .call positive onward rfl, fun _ => rfl⟩
    · by_cases early : 0 < wait.deadline - h.now w₁
      · have slept := yielding.slept _ w₁ (shorter_nonneg positive.le early.le)
        have fewer := naps_after_sleep positive (sub_pos.mp early) slept
        have left : naps wait.deadline wait.poll (h.now w₁) ≤ naps wait.deadline wait.poll (h.now w) :=
          naps_le positive onward
        obtain ⟨deeds, found, finish, w', later, sought, spent, ends⟩ :=
          ih (h.sleep (shorter wait.poll (wait.deadline - h.now w₁)) w₁) (by omega)
        refine ⟨_, found, finish, w', missed.bind ?_, .again (sub_pos.mp early) sought,
          spent.again (fewer.trans left), ends⟩
        simp only [early, if_true]
        exact (chronicles_rest (Clock.takes_of_le paces (shorter_le_left _ _)) w₁).bind later
      · obtain ⟨w', gaveUp⟩ := chronicles_giveUp wait w₁
        refine ⟨_, false, _, w', missed.lastly ?_, .expired (by linarith), .call positive onward rfl, nofun⟩
        simp only [early, if_false]
        exact gaveUp

end

section
variable {h : Host W P H C} {page : P} {selector : String} (yielding : Yielding h page selector)
include yielding

theorem chronicles_waitUnder {d : Defaults} (paces : h.Paces d.pollIntervalMs)
    (timeoutMs : Int) (deadline : Rat) (root : Option H) (w : W) :
    ∃ deeds found finish w', Chronicles (waitUnder h d selector timeoutMs deadline page root)
      (waitUnder h.chronicled d selector timeoutMs deadline page root) w deeds
      (concluded (Cause.selectorTimeout (.text selector) (.int timeoutMs)) () found) w' ∧
    Sought deadline (Watch.period d.pollIntervalMs) root deeds found ∧
    Spent deadline (Watch.period d.pollIntervalMs) (h.now w) finish 1 deeds ∧
    (found = true → finish = h.now w') := by
  let wait : Wait := ⟨selector, timeoutMs, deadline, Watch.period d.pollIntervalMs⟩
  have told : h.precision.seconds (max d.pollIntervalMs 1) = .ok (Watch.period d.pollIntervalMs) := by
    rw [yielding.exact]
    rfl
  have enough : naps deadline (Watch.period d.pollIntervalMs) (h.now w) ≤ retryBound wait (h.now w) :=
    Nat.ceil_le.mpr (left_le_retryBound wait (h.now w))
  have about : Yielding h page wait.selector := yielding
  obtain ⟨deeds, found, finish, w', polled, rest⟩ := chronicles_waitIn about
    (Watch.period_pos d.pollIntervalMs) (paces _ told) root (retryBound wait (h.now w)) w enough
  refine ⟨deeds, found, finish, w', ?_, rest⟩
  unfold waitUnder
  have told' : h.chronicled.precision.seconds (max d.pollIntervalMs 1) =
      .ok (Watch.period d.pollIntervalMs) := told
  rw [told, told']
  have interval : Chronicles (H := H) (Act.ofExcept (.ok wait.poll)) (Act.ofExcept (.ok wait.poll)) w []
      (.ok wait.poll) w := chronicles_ofExcept _ w
  exact interval.silently ((chronicles_time w).silently polled)

theorem chronicles_waitInAll {d : Defaults} (paces : h.Paces d.pollIntervalMs)
    (timeoutMs : Int) (deadline : Rat) (roots : List (Option H))
    (w : W) : ∃ deeds found finish w',
    Chronicles (waitInAll h d selector timeoutMs deadline page roots)
      (waitInAll h.chronicled d selector timeoutMs deadline page roots) w deeds
      (concluded (Cause.selectorTimeout (.text selector) (.int timeoutMs)) () found) w' ∧
    SoughtAll deadline (Watch.period d.pollIntervalMs) roots deeds found ∧
    Spent deadline (Watch.period d.pollIntervalMs) (h.now w) finish roots.length deeds := by
  induction roots generalizing w with
  | nil => exact ⟨[], true, h.now w, w, .pure () w, .nil, ⟨by simp, by simp⟩⟩
  | cons root rest ih =>
    obtain ⟨deeds, found, finish, w₁, waited, sought, spent, ends⟩ :=
      chronicles_waitUnder yielding paces timeoutMs deadline root w
    cases found with
    | false =>
      have calls := spent.calls
      refine ⟨deeds, false, finish, w₁, waited.bind_error, .stop sought, ⟨?_, spent.sleeps⟩⟩
      rw [List.length_cons]
      omega
    | true =>
      obtain ⟨more, found, finish', w₂, others, soughtAll, spent'⟩ := ih w₁
      rw [ends rfl] at spent
      have all := spent.append spent'
      refine ⟨deeds ++ more, found, finish', w₂, waited.bind others, .next sought soughtAll, ?_⟩
      rw [List.length_cons, Nat.add_comm]
      exact all

end

/-- Waiting ends for every such page. Of the time that is given, each sleep but the last uses up a whole
interval, and there is one call for each sleep and at most one more for each root; the roots are asked in
turn, each until it has a match. -/
theorem waitStep_ends {h : Host W P H C} (d : Defaults) (state : ReplayState P H) {selector : String}
    (yielding : Yielding h state.page selector) (paces : h.Paces d.pollIntervalMs) {requested : Value}
    {timeoutMs : Int} (timeout : effectiveTimeout d requested = .ok timeoutMs) (w : W) {deadline : Rat} {most : Nat}
    (ends : deadline = h.now w + timeoutMs / 1000)
    (fits : most = ⌈(timeoutMs / (max d.pollIntervalMs 1 : Int) : Rat)⌉₊) :
    ∃ deeds found w', (waitStep h d selector requested state).runOn w =
        (concluded (Cause.selectorTimeout (.text selector) (.int timeoutMs)) state found, w') ∧
      (waitStep h.chronicled d selector requested state).runOn (w, []) =
        (concluded (Cause.selectorTimeout (.text selector) (.int timeoutMs)) state found, w', deeds) ∧
      SoughtAll deadline (Watch.period d.pollIntervalMs) state.scope.roots deeds found ∧
      deeds.countP Deed.isCall ≤ most + state.scope.roots.length ∧
      deeds.countP Deed.isSleep ≤ most ∧
      (state.scope.roots = [] → deeds = []) := by
  obtain ⟨deeds, found, finish, w', waited, sought, spent⟩ :=
    chronicles_waitInAll yielding paces timeoutMs deadline state.scope.roots w
  have told : h.precision.seconds timeoutMs = .ok (timeoutMs / 1000) := by
    rw [yielding.exact]
    rfl
  have told' : h.chronicled.precision.seconds timeoutMs = .ok (timeoutMs / 1000) := told
  have kept : h.precision.near (h.now w + timeoutMs / 1000) = deadline := by
    rw [yielding.exact, ends]
    rfl
  have kept' : h.chronicled.precision.near (h.now w + timeoutMs / 1000) = deadline := kept
  have step : Chronicles (waitStep h d selector requested state)
      (waitStep h.chronicled d selector requested state) w deeds
      (concluded (Cause.selectorTimeout (.text selector) (.int timeoutMs)) state found) w' := by
    unfold waitStep
    rw [timeout]
    refine (chronicles_ofExcept (.ok timeoutMs) w).silently ((chronicles_time w).silently ?_)
    rw [told, told']
    refine (chronicles_ofExcept (.ok (timeoutMs / 1000 : Rat)) w).silently ?_
    dsimp only
    rw [kept, kept']
    cases found with
    | false => exact waited.bind_error
    | true => exact waited.lastly (.pure state w')
  have start : naps deadline (Watch.period d.pollIntervalMs) (h.now w) = most := by
    rw [naps, ends, add_sub_cancel_left, fits, Watch.period, div_div_div_cancel_right₀ (by norm_num)]
  have calls := spent.calls
  have sleeps := spent.sleeps
  refine ⟨deeds, found, w', step.1, step.2 [], sought, by omega, by omega, fun none => ?_⟩
  rw [none] at sought
  cases sought
  rfl

/-- A page that finds its selector under the first element after ten milliseconds, and gives up at once under
the others. -/
def restless : Host Rat Unit Nat Empty :=
  { timetable (H := Nat) (C := Empty) fun _ => 0 with
    waitFor := fun _ selector ms root => do
      if root = some 1 then modify (· + 1 / 100)
      else Act.fail (Cause.waitExpired (Cause.waitMessage selector (toString ms))) }

theorem restless_waitFor (selector : String) (ms : Int) (root : Option Nat) (w : Rat) :
    (restless.waitFor () selector ms root).runOn w = if root = some 1 then (.ok ⟨⟩, w + 1 / 100)
      else (.error (Cause.waitExpired (Cause.waitMessage selector (toString ms))), w) := by
  dsimp only [restless]
  split <;> rfl

theorem restless_yielding (selector : String) : Yielding restless () selector where
  exact := rfl
  slept _ _ _ := le_refl _
  onward ms root w := by
    rw [restless_waitFor]
    split
    · show w ≤ w + 1 / 100
      linarith
    · exact le_refl w
  timesOut ms root w w' f run := by
    rw [restless_waitFor] at run
    split at run
    · cases run
    · cases run
      rfl

/-- Under the second element the page is asked again and again, with at most four sleeps between. -/
theorem waitStep_ends_at_restless : Yielding restless () "li" ∧
    effectiveTimeout { pollIntervalMs := 30 } (.int 100) = .ok 100 ∧
    ∃ deeds w', (waitStep restless.chronicled { pollIntervalMs := 30 } "li" (.int 100)
        ⟨(), .grouped [1, 2], [], 0⟩).runOn (0, []) =
          (.error (Cause.selectorTimeout (.text "li") (.int 100)), w', deeds) ∧
      SoughtAll (1 / 10) (3 / 100) [some 1, some 2] deeds false ∧
      deeds.countP Deed.isCall ≤ 6 ∧ deeds.countP Deed.isSleep ≤ 4 := by
  have most : 4 = ⌈((100 : Int) / (max 30 1 : Int) : Rat)⌉₊ :=
    ((Nat.ceil_eq_iff (by decide)).mpr ⟨by norm_num, by norm_num⟩).symm
  obtain ⟨deeds, found, w', run, noted, sought, calls, sleeps, -⟩ :=
    waitStep_ends { pollIntervalMs := 30 } ⟨(), .grouped [1, 2], [], 0⟩ (restless_yielding "li")
      (fun _ _ => rfl) (show effectiveTimeout { pollIntervalMs := 30 } (.int 100) = .ok 100 from rfl) 0
      (show (1 / 10 : Rat) = 0 + (100 : Int) / 1000 by norm_num) most
  have interval : Watch.period 30 = 3 / 100 := by
    norm_num [Watch.period]
  obtain ⟨f, _, failed, -⟩ := Act.exists_error
    (waitStep restless { pollIntervalMs := 30 } "li" (.int 100) ⟨(), .grouped [1, 2], [], 0⟩) 0
    (fun _ => true) (by decide +kernel)
  have lost : found = false := by
    rw [run] at failed
    cases found with
    | false => rfl
    | true => cases failed
  subst lost
  exact ⟨restless_yielding "li", rfl, deeds, w', noted, interval ▸ sought, calls, sleeps⟩

end Replay
end PageHarvest

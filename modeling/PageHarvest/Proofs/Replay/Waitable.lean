import PageHarvest.Proofs.Number.Range
import PageHarvest.Proofs.Query.Loading
import PageHarvest.Proofs.Query.Rendering
import PageHarvest.Proofs.Replay.Retries

/-!
Which timeouts can be waited for: those that the binary format has room for. A wait for one of these ends
with the state that it began with or with its own failure, whatever the page does in the meantime. A longer
one is accepted by the builder all the same, and fails before the page is asked.
-/
namespace PageHarvest
namespace Precision
open Binary64

/-- Counts of milliseconds that the binary format has room for. -/
def Roomy (ms : Int) : Prop :=
  ms.natAbs < 2 ^ 1024 - 2 ^ 970

instance (ms : Int) : Decidable (Roomy ms) :=
  inferInstanceAs (Decidable (_ < _))

theorem roomy_iff (ms : Int) : Roomy ms ↔ |(ms : Rat)| < bound := by
  have cast : bound = ((2 ^ 1024 - 2 ^ 970 : Nat) : Rat) := by decide +kernel
  rw [Roomy, cast, ← Int.cast_abs, Int.abs_eq_natAbs, Int.cast_natCast, Nat.cast_lt]

theorem seconds_of_roomy {ms : Int} (roomy : Roomy ms) :
    double.seconds ms = .ok (double.near (nearest (ms : Rat) / 1000)) := by
  have fits := (fits_iff (ms : Rat)).mpr ((roomy_iff ms).mp roomy)
  rw [seconds, double_keep, if_pos fits]

theorem seconds_of_not_roomy {ms : Int} (large : ¬ Roomy ms) :
    double.seconds ms = .error (Cause.overflow "int too large to convert to float") := by
  have unfit : ¬ |nearest (ms : Rat)| < twoPow 1024 := fun fits =>
    large ((roomy_iff ms).mpr ((fits_iff _).mp fits))
  rw [seconds, double_keep, if_neg unfit]

/-- What can be told in seconds can be told in milliseconds again. Only for the largest numbers does this
hang on how their thousandth is rounded. -/
theorem milliseconds_of_seconds {ms : Int} {span : Rat} (told : double.seconds ms = .ok span) :
    ∃ x, double.milliseconds span = .ok x := by
  by_cases roomy : Roomy ms
  · rw [seconds_of_roomy roomy] at told
    cases told
    have fits := (fits_iff (ms : Rat)).mpr ((roomy_iff ms).mp roomy)
    have thousandth : |nearest (ms : Rat) / 1000| ≤ largest / 1000 := by
      rw [abs_div, abs_of_pos (show (0 : Rat) < 1000 by norm_num)]
      exact div_le_div_of_nonneg_right (abs_nearest_le_largest fits) (by norm_num)
    have within : |nearest (ms : Rat) / 1000| ≤ twoPow 1015 :=
      le_trans thousandth (by decide +kernel)
    have rounded : |nearest (nearest (ms : Rat) / 1000)| ≤ nearest (largest / 1000) := by
      rw [abs_nearest]
      exact nearest_mono thousandth
    have least : nearest (largest / 1000) * 1000 < bound := by decide +kernel
    have back : |nearest (nearest (ms : Rat) / 1000) * 1000| < bound := by
      rw [abs_mul, abs_of_pos (show (0 : Rat) < 1000 by norm_num)]
      linarith
    refine ⟨nearest (nearest (nearest (ms : Rat) / 1000) * 1000), ?_⟩
    rw [double_near_of_within (by decide) (by decide) within, milliseconds_eq, if_pos ((fits_iff _).mpr back)]
  · rw [seconds_of_not_roomy roomy] at told
    cases told

end Precision

namespace Replay
open Handler Precision
open Binary64 (twoPow)
variable {W P H C : Type}

/-- Waits that are steps of a query which calls build, or which a definition file asks for. -/
inductive Accepted [Stack] (C : Type) (selector : String) (requested : Value) : Prop where
  | called {url method postData calls} {q : Query C} (built : Query.build url method postData calls = .ok q)
      (step : .waitFor selector requested ∈ q.steps)
  | defined {tree path} {q : Query C} (loaded : Query.load tree path = .ok q)
      (step : .waitFor selector requested ∈ q.steps)

theorem Accepted.isTimeout [Stack] {selector : String} {requested : Value}
    (accepted : Accepted C selector requested) : IsTimeout requested := by
  have of_build {url method postData calls} {q : Query C}
      (built : Query.build url method postData calls = .ok q)
      (step : .waitFor selector requested ∈ q.steps) : IsTimeout requested := by
    obtain ⟨visit, later, steps, -, -, others⟩ := (Query.validSteps_of_build built).start
    rw [steps] at step
    rcases List.mem_cons.mp step with first | inside
    · cases first
    · cases others _ inside with
      | waitFor nonblank timeout => exact timeout
  cases accepted with
  | called built step => exact of_build built step
  | defined loaded step =>
    obtain ⟨m, read⟩ := Query.ofMapping_of_load loaded
    obtain ⟨entries, calls, -, -, built⟩ := Query.ofMapping_ok read
    exact of_build built step

/-- The builder takes every count of milliseconds, of any length. -/
theorem accepted_of_count [Stack] {selector : String} (nonblank : NonBlank selector) (n : Nat) :
    Accepted C selector (.int n) := by
  have site : NonBlank "http://a/" := ⟨'a', by decide, by decide⟩
  obtain ⟨q, begun⟩ : ∃ q : Query C, Query.startingAt (.text "http://a/") (.text "GET") .null = .ok q :=
    ⟨_, Query.startingAt_ok_iff.mpr ⟨"http://a/", "GET", rfl, site, rfl, .inl rfl, rfl⟩⟩
  obtain ⟨q', waits, appended⟩ : ∃ q', (Query.Call.waitFor (.text selector) (.int n)).apply q = .ok q' ∧
      q' = q.append (.waitFor selector (.int n)) :=
    ⟨_, Query.apply_ok_iff.mpr ⟨_, .waitFor nonblank (.count n), rfl⟩, rfl⟩
  have built : Query.build (.text "http://a/") (.text "GET") .null [.waitFor (.text selector) (.int n)] =
      .ok q' :=
    bind_ok_iff.mpr ⟨q, begun, bind_ok_iff.mpr ⟨q', waits, Query.grow_nil q'⟩⟩
  refine .called built ?_
  rw [appended, Query.steps_append]
  exact List.mem_concat_self

/-- Worlds of a run in which every wait on a page ends with a match or with a timeout. The clock keeps to the
binary format, shows instants, and takes sleeps of up to an interval. -/
structure Settles (h : Host W P H C) (page : P) (selector : String) (interval : Rat) (worlds : W → Prop) :
    Prop where
  precision : h.precision = .double
  timely : ∀ {w}, worlds w → Timely (h.now w)
  answers : ∀ {w ms} root, worlds w → Askable ms → ∃ out w',
    (h.waitFor page selector ms root).runOn w = (out, w') ∧ worlds w' ∧
      ∀ f, out = .error f → f.cause.isTimeout = true
  takes : h.refuses interval = false
  sleeps : ∀ {w span}, worlds w → 0 ≤ span → span ≤ interval → worlds (h.sleep span w)

/-- The selector is there under a root in all of these worlds, so that every wait for it finds it. -/
def Holds (h : Host W P H C) (page : P) (selector : String) (worlds : W → Prop) (root : Option H) : Prop :=
  ∀ w ms, worlds w → Askable ms → ((h.waitFor page selector ms root).runOn w).1 = .ok ⟨⟩

/-- What a wait comes to: its own end or its own failure, and the worlds go on if it succeeds. Where the selector
is there, it succeeds. -/
def Concludes {α : Type} (act : Act W α) (w : W) (expired : Failure) (a : α) (worlds : W → Prop)
    (there : Prop) : Prop :=
  ∃ found w', act.runOn w = (concluded expired a found, w') ∧ (found = true → worlds w') ∧
    (there → found = true)

section
variable {α : Type} {expired : Failure} {a : α} {worlds : W → Prop} {there : Prop}

/-- What goes on as something that concludes does concludes as well. -/
theorem Concludes.of_runOn {act act' : Act W α} {w w' : W} (concludes : Concludes act' w' expired a worlds there)
    (same : act.runOn w = act'.runOn w') : Concludes act w expired a worlds there := by
  obtain ⟨found, v, run, later⟩ := concludes
  exact ⟨found, v, same.trans run, later⟩

theorem giveUp_concludes (h : Host W P H C) (wait : Wait) (w : W) (absent : ¬ there) :
    Concludes (giveUp h wait) w wait.expired ⟨⟩ worlds there :=
  ⟨false, _, rfl, nofun, fun here => absurd here absent⟩

end

section
variable {h : Host W P H C} {page : P} {selector : String} {interval : Rat} {worlds : W → Prop}
  (settles : Settles h page selector interval worlds)
include settles

/-- One attempt finds the selector, or ends with the time that remains. -/
theorem attempt_settles {wait : Wait} (about : wait.selector = selector)
    (told : ∀ {t}, Timely t → ∃ ms, callTimeout double wait.deadline t = .ok ms) (root : Option H) {w : W}
    (here : worlds w) : ∃ w', worlds w' ∧ ((attempt h wait page root).runOn w = (.ok none, w') ∨
      (attempt h wait page root).runOn w = (.ok (some (h.precision.near (wait.deadline - h.now w'))), w') ∧
        ¬ Holds h page selector worlds root) := by
  subst about
  obtain ⟨ms, told⟩ := told (settles.timely here)
  have askable := askable_of_callTimeout told
  rw [← settles.precision] at told
  obtain ⟨out, w', run, there, late⟩ := settles.answers root here askable
  refine ⟨w', there, ?_⟩
  cases out with
  | ok _ => exact .inl (attempt_found told run)
  | error f =>
    refine .inr ⟨attempt_expired told run (late f rfl), fun holds => ?_⟩
    have found := holds w ms here askable
    rw [run] at found
    cases found

theorem waitIn_concludes {wait : Wait} (about : wait.selector = selector) (poll : wait.poll = interval)
    (nonneg : 0 ≤ interval)
    (told : ∀ {t}, Timely t → ∃ ms, callTimeout double wait.deadline t = .ok ms) (root : Option H) (n : Nat)
    {w : W} (here : worlds w) : Concludes (waitIn h wait page root n) w wait.expired ⟨⟩ worlds
      (Holds h page selector worlds root) := by
  -- on the retries left; between two attempts there is a sleep that the clock takes
  induction n generalizing w with
  | zero =>
    obtain ⟨w', there, found | ⟨missed, absent⟩⟩ := attempt_settles settles about told root here
    · exact ⟨true, w', waitIn_found found 0, fun _ => there, fun _ => rfl⟩
    · refine (giveUp_concludes h wait w' absent).of_runOn ?_
      rw [waitIn, Act.runOn_bind, missed]
      rfl
  | succ n ih =>
    obtain ⟨w', there, found | ⟨missed, absent⟩⟩ := attempt_settles settles about told root here
    · exact ⟨true, w', waitIn_found found (n + 1), fun _ => there, fun _ => rfl⟩
    · by_cases early : 0 < h.precision.near (wait.deadline - h.now w')
      · have span : 0 ≤ shorter wait.poll (h.precision.near (wait.deadline - h.now w')) ∧
            shorter wait.poll (h.precision.near (wait.deadline - h.now w')) ≤ interval := by
          rw [poll, shorter]
          split
          · exact ⟨nonneg, le_refl _⟩
          · rename_i long
            exact ⟨le_of_lt early, le_of_lt (not_le.mp long)⟩
        refine (ih (settles.sleeps there span.1 span.2)).of_runOn ?_
        rw [waitIn, Act.runOn_bind, missed]
        dsimp only
        rw [if_pos early, Clock.rest_of_takes (Clock.takes_of_le settles.takes span.2), Act.runOn_bind,
          Act.runOn_modify]
      · refine (giveUp_concludes h wait w' absent).of_runOn ?_
        rw [waitIn, Act.runOn_bind, missed]
        dsimp only
        rw [if_neg early]

section
variable {d : Defaults} (paced : double.seconds (max d.pollIntervalMs 1) = .ok interval)
  {timeoutMs : Int} {deadline : Rat} (told : ∀ {t}, Timely t → ∃ ms, callTimeout double deadline t = .ok ms)
include paced told

theorem waitUnder_concludes (root : Option H) {w : W} (here : worlds w) :
    Concludes (waitUnder h d selector timeoutMs deadline page root) w
      (Cause.selectorTimeout (.text selector) (.int timeoutMs)) ⟨⟩ worlds
      (Holds h page selector worlds root) := by
  obtain ⟨wait, same⟩ : ∃ wait : Wait, wait = ⟨selector, timeoutMs, deadline, interval⟩ := ⟨_, rfl⟩
  have nonneg := interval_nonneg paced
  have waited : Concludes (waitIn h wait page root (retryBound wait (h.now w))) w wait.expired ⟨⟩ worlds
      (Holds h page selector worlds root) := by
    refine waitIn_concludes settles ?_ ?_ nonneg ?_ root _ here
    · rw [same]
    · rw [same]
    · rw [same]
      exact told
  subst same
  refine waited.of_runOn ?_
  rw [waitUnder, settles.precision, paced]
  rfl

theorem waitInAll_concludes (roots : List (Option H)) {w : W} (here : worlds w) :
    Concludes (waitInAll h d selector timeoutMs deadline page roots) w
      (Cause.selectorTimeout (.text selector) (.int timeoutMs)) ⟨⟩ worlds
      (∀ root ∈ roots, Holds h page selector worlds root) := by
  induction roots generalizing w with
  | nil => exact ⟨true, w, rfl, fun _ => here, fun _ => rfl⟩
  | cons root rest ih =>
    obtain ⟨found, w', run, onward, there⟩ := waitUnder_concludes settles paced told root here
    cases found with
    | false =>
      refine ⟨false, w', ?_, nofun, fun all => there (all root List.mem_cons_self)⟩
      rw [waitInAll, Act.runOn_bind, run]
      rfl
    | true =>
      obtain ⟨others, w₂, run₂, later, all⟩ := ih (onward rfl)
      refine ⟨others, w₂, ?_, later, fun each => all fun r mem => each r (List.mem_cons_of_mem _ mem)⟩
      rw [waitInAll, Act.runOn_bind, run]
      exact run₂

end
end

section
variable {h : Host W P H C} {d : Defaults} {state : ReplayState P H} {selector : String} {requested : Value}
  {timeoutMs : Int} (timeout : effectiveTimeout d requested = .ok timeoutMs)
include timeout

theorem waitStep_roomy {interval : Rat} {worlds : W → Prop}
    (settles : Settles h state.page selector interval worlds)
    (paced : double.seconds (max d.pollIntervalMs 1) = .ok interval) (roomy : Roomy timeoutMs) {w : W}
    (here : worlds w) : Concludes (waitStep h d selector requested state) w
      (Cause.selectorTimeout (.text selector) (.int timeoutMs)) state worlds
      (∀ root ∈ state.scope.roots, Holds h state.page selector worlds root) := by
  have told := seconds_of_roomy roomy
  obtain ⟨x, plain⟩ := milliseconds_of_seconds told
  have asked {t : Rat} (timely : Timely t) :=
    callTimeout_at told (settles.timely here) plain timely
  obtain ⟨found, w', run, later⟩ := waitInAll_concludes settles paced asked state.scope.roots here
  refine ⟨found, w', ?_, later⟩
  unfold waitStep
  rw [Act.runOn_bind, Act.runOn_ofExcept, timeout]
  dsimp only
  rw [Act.runOn_bind, runOn_time]
  dsimp only
  rw [Act.runOn_bind, Act.runOn_ofExcept, settles.precision, told]
  dsimp only
  rw [Act.runOn_bind, run]
  cases found <;> rfl

theorem waitStep_not_roomy (precision : h.precision = .double) (large : ¬ Roomy timeoutMs) (w : W) :
    (waitStep h d selector requested state).runOn w =
      (.error (Cause.overflow "int too large to convert to float"), w) := by
  unfold waitStep
  rw [Act.runOn_bind, Act.runOn_ofExcept, timeout]
  dsimp only
  rw [Act.runOn_bind, runOn_time]
  dsimp only
  rw [Act.runOn_bind, Act.runOn_ofExcept, precision, seconds_of_not_roomy large]

end

/-- A wait that is accepted ends with the state that it began with or with its own failure exactly when the
format has room for its timeout, and if the selector is there under every root, it then succeeds. A longer
timeout cannot be told in seconds, and fails before the page is asked. -/
theorem waitStep_concludes_iff [Stack] {h : Host W P H C} (d : Defaults) (state : ReplayState P H) {selector : String}
    {requested : Value} (accepted : Accepted C selector requested) {interval : Rat}
    (paced : double.seconds (max d.pollIntervalMs 1) = .ok interval) {worlds : W → Prop}
    (settles : Settles h state.page selector interval worlds) {w : W} (here : worlds w) :
    ∃ timeoutMs, effectiveTimeout d requested = .ok timeoutMs ∧
      (requested = .int timeoutMs ∧ 0 ≤ timeoutMs ∨ requested = .null ∧ timeoutMs = d.waitTimeoutMs) ∧
      ((∃ found w', (waitStep h d selector requested state).runOn w =
          (concluded (Cause.selectorTimeout (.text selector) (.int timeoutMs)) state found, w')) ↔
        Roomy timeoutMs) ∧
      ((∀ root ∈ state.scope.roots, Holds h state.page selector worlds root) →
        ((∃ w', (waitStep h d selector requested state).runOn w = (.ok state, w')) ↔ Roomy timeoutMs)) ∧
      (¬ Roomy timeoutMs → (waitStep h d selector requested state).runOn w =
        (.error (Cause.overflow "int too large to convert to float"), w)) := by
  obtain ⟨timeoutMs, timeout, given⟩ : ∃ timeoutMs, effectiveTimeout d requested = .ok timeoutMs ∧
      (requested = .int timeoutMs ∧ 0 ≤ timeoutMs ∨ requested = .null ∧ timeoutMs = d.waitTimeoutMs) := by
    cases accepted.isTimeout with
    | absent => exact ⟨d.waitTimeoutMs, rfl, .inr ⟨rfl, rfl⟩⟩
    | count n => exact ⟨n, rfl, .inl ⟨rfl, Int.natCast_nonneg n⟩⟩
  have refused (large : ¬ Roomy timeoutMs) : (waitStep h d selector requested state).runOn w =
      (.error (Cause.overflow "int too large to convert to float"), w) :=
    waitStep_not_roomy timeout settles.precision large w
  refine ⟨timeoutMs, timeout, given, ⟨?_, ?_⟩, fun there => ⟨?_, ?_⟩, refused⟩
  · rintro ⟨found, w', run⟩
    by_contra large
    rw [refused large] at run
    cases found <;> cases run
  · intro roomy
    obtain ⟨found, w', run, -⟩ := waitStep_roomy timeout settles paced roomy here
    exact ⟨found, w', run⟩
  · rintro ⟨w', run⟩
    by_contra large
    rw [refused large] at run
    cases run
  · intro roomy
    obtain ⟨found, w', run, -, all⟩ := waitStep_roomy timeout settles paced roomy here
    rw [all there] at run
    exact ⟨w', run⟩

/-- Pages on a clock that counts nanoseconds up to 63 bits. They find every selector at once, but under the
second element they wait in vain. -/
def ticking : Host Nat Unit Nat Empty where
  blank _ := blankUrl
  navigate _ visit := return ⟨none, visit.url⟩
  waitFor _ selector ms root := do
    if root = some 2 then
      modify (· + ms.toNat * 10 ^ 6)
      Act.fail (Cause.waitExpired (Cause.waitMessage selector (toString ms)))
  queryAll _ _ _ := return []
  extract _ _ _ _ := return none
  precision := .double
  now w := double.near ((min w (2 ^ 63 - 1) : Nat) / 10 ^ 9)
  sleep span w := w + (span * 10 ^ 9).ceil.toNat
  emit _ w := w
  call _ page _ := return .pair page .absent
  samePage _ _ := true

theorem ticking_waitFor (selector : String) (ms : Int) (root : Option Nat) (w : Nat) :
    (ticking.waitFor () selector ms root).runOn w = if root = some 2 then
      (.error (Cause.waitExpired (Cause.waitMessage selector (toString ms))), w + ms.toNat * 10 ^ 6)
      else (.ok ⟨⟩, w) := by
  dsimp only [ticking]
  split <;> rfl

theorem ticking_timely (w : Nat) : Timely (ticking.now w) := by
  have nonneg : (0 : Rat) ≤ (min w (2 ^ 63 - 1) : Nat) / 10 ^ 9 := by positivity
  have whole : ((min w (2 ^ 63 - 1) : Nat) : Rat) ≤ (2 ^ 63 - 1 : Nat) := Nat.cast_le.mpr (min_le_right _ _)
  have within : |((min w (2 ^ 63 - 1) : Nat) / 10 ^ 9 : Rat)| ≤ twoPow 900 := by
    rw [abs_of_nonneg nonneg]
    calc ((min w (2 ^ 63 - 1) : Nat) / 10 ^ 9 : Rat) ≤ (2 ^ 63 - 1 : Nat) / 10 ^ 9 :=
          div_le_div_of_nonneg_right whole (by norm_num)
      _ ≤ twoPow 900 := by decide +kernel
  exact abs_near_le (by decide) (by decide) within

theorem ticking_settles (selector : String) (interval : Rat) :
    Settles ticking () selector interval fun _ => True where
  precision := rfl
  timely _ := ticking_timely _
  answers {w ms} root _ _ := by
    have run := ticking_waitFor selector ms root w
    by_cases last : root = some 2
    · rw [if_pos last] at run
      refine ⟨_, _, run, trivial, ?_⟩
      intro f failed
      cases failed
      rfl
    · rw [if_neg last] at run
      exact ⟨_, _, run, trivial, nofun⟩
  takes := rfl
  sleeps _ _ _ := trivial

/-- The state of a replay in the elements of this list. -/
def ticking.within (elements : List Nat) : ReplayState Unit Nat :=
  (ReplayState.initial ()).withScope (.grouped elements)

theorem ticking_holds (selector : String) {elements : List Nat} (others : 2 ∉ elements) :
    ∀ root ∈ (ticking.within elements).scope.roots, Holds ticking () selector (fun _ => True) root := by
  intro root mem w ms _ _
  obtain ⟨element, inside, rfl⟩ := List.mem_map.mp mem
  have other : some element ≠ some 2 := by
    rintro ⟨⟩
    exact others inside
  rw [ticking_waitFor, if_neg other]

/-- A timeout of three hundred digits is waited for. -/
theorem waitStep_concludes_of_digits : ∃ w', (waitStep ticking {} "li" (.int ((10 ^ 300 : Nat) : Int))
    (ticking.within [1, 3])).runOn 0 = (.ok (ticking.within [1, 3]), w') := by
  have accepted := accepted_of_count (C := Empty) (show NonBlank "li" from ⟨'l', by decide, by decide⟩) (10 ^ 300)
  have paced := seconds_of_roomy (show Roomy (max ({} : Defaults).pollIntervalMs 1) by decide +kernel)
  obtain ⟨ms, timeout, -, -, there, -⟩ := waitStep_concludes_iff {} (ticking.within [1, 3]) accepted paced
    (ticking_settles "li" _) (w := 0) trivial
  cases timeout
  exact (there (ticking_holds "li" (by decide))).mpr (by decide +kernel)

/-- One of three hundred and ten digits is accepted as well, and fails although the selector is there. -/
theorem long_timeout_overflows : Accepted Empty "li" (.int ((10 ^ 309 : Nat) : Int)) ∧
    Settles ticking () "li" 1 (fun _ => True) ∧
    (∀ root ∈ (ticking.within [1, 3]).scope.roots, Holds ticking () "li" (fun _ => True) root) ∧
    (waitStep ticking {} "li" (.int ((10 ^ 309 : Nat) : Int)) (ticking.within [1, 3])).runOn 0 =
      (.error (Cause.overflow "int too large to convert to float"), 0) := by
  refine ⟨accepted_of_count ⟨'l', by decide, by decide⟩ _, ticking_settles _ _,
    ticking_holds "li" (by decide), ?_⟩
  exact waitStep_not_roomy rfl rfl (by decide +kernel) 0

end Replay
end PageHarvest

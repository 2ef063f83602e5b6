import PageHarvest.Proofs.Replay.Meaning
import PageHarvest.Proofs.Replay.Motion
import PageHarvest.Proofs.Replay.Polling
import PageHarvest.Proofs.Replay.Remaining

/-!
Clocks that keep time. A page is asked again after a bounded number of sleeps at most. On a clock of the
binary format that never goes back, and that moves on by what is slept, the bound is never what ends a wait:
rounding takes less than half of every sleep, and the last sleep but one leaves so little that the last one
ends on the deadline itself.
-/
namespace PageHarvest.Replay
open Handler Precision
open Act (Moves)
open Binary64 (twoPow nearest)
variable {W P H C K : Type}

section Rounding
variable {a b : Rat} {k : Int}

theorem near_error (normal : -1022 ≤ k) (top : k ≤ 1023) (within : |a| ≤ twoPow k) :
    |double.near a - a| ≤ twoPow (k - 53) := by
  rw [double_near_of_within normal top within]
  exact Binary64.nearest_error normal within

theorem near_near (q : Rat) : double.near (double.near q) = double.near q := by
  by_cases fits : |nearest q| < twoPow 1024
  · rw [Binary64.double_near fits]
    have again := Binary64.nearest_nearest q
    rw [Binary64.double_near (by rwa [again]), again]
  · have same : double.near q = q := by
      rw [near, Binary64.double_keep, if_neg fits, Option.getD_none]
    rw [same, same]

theorem le_near_of_le (nonneg : 0 ≤ a) (fixed : double.near a = a) (le : a ≤ b) : a ≤ double.near b := by
  have rounded := Binary64.nearest_mono le
  by_cases fits : |nearest b| < twoPow 1024
  · have fits' : |nearest a| < twoPow 1024 := by
      rw [abs_of_nonneg (Binary64.nearest_nonneg nonneg)]
      exact rounded.trans_lt (le_abs_self _ |>.trans_lt fits)
    rw [Binary64.double_near fits'] at fixed
    rwa [Binary64.double_near fits, ← fixed]
  · rwa [near, Binary64.double_keep, if_neg fits, Option.getD_none]

theorem near_le_of_le (fixed : nearest b = b) (le : a ≤ b) : double.near a ≤ b := by
  unfold near
  rw [Binary64.double_keep]
  split
  · have rounded := Binary64.nearest_mono le
    rwa [fixed] at rounded
  · exact le

theorem twoPow_le_near (normal : -1022 ≤ k) (top : k ≤ 1023) (le : twoPow k ≤ a) : twoPow k ≤ double.near a := by
  refine le_near_of_le (Binary64.twoPow_pos k).le ?_ le
  rw [double_near_of_within normal top (within_twoPow k), Binary64.nearest_twoPow normal]

/-- A millisecond is more than a small power of two, told in seconds too. -/
theorem seconds_pos {ms : Int} {span : Rat} (told : double.seconds ms = .ok span) (positive : 1 ≤ ms) :
    twoPow (-10) ≤ span := by
  have one : nearest 1 = 1 := Binary64.nearest_twoPow (k := 0) (by decide)
  rw [seconds, Binary64.double_keep] at told
  split at told
  · cases told
  · rename_i x kept
    cases told
    split at kept
    · cases kept
      have whole : (1 : Rat) ≤ nearest (ms : Rat) := by
        rw [← one]
        exact Binary64.nearest_mono (by exact_mod_cast positive)
      refine twoPow_le_near (by decide) (by decide) ?_
      have power : twoPow (-10) = 1 / 1024 := by norm_num [twoPow]
      rw [power]
      linarith
    · cases kept

theorem seconds_nonpos {ms : Int} {span : Rat} (told : double.seconds ms = .ok span) (nonpos : ms ≤ 0) :
    span ≤ 0 := by
  rw [seconds, Binary64.double_keep] at told
  split at told
  · cases told
  · rename_i x kept
    cases told
    split at kept
    · cases kept
      have whole : nearest (ms : Rat) ≤ 0 := by
        rw [← neg_nonneg, ← Binary64.nearest_neg]
        exact Binary64.nearest_nonneg (by exact_mod_cast neg_nonneg.mpr nonpos)
      exact near_nonpos (by linarith)
    · cases kept

end Rounding

/-- The latest instant up to which a sleep of a millisecond shows on the clock by more than half of it. It is
some centuries from the first one. -/
def horizon : Rat := twoPow 33

/-- A deadline that has passed, or one that is large beside the errors of rounding. -/
def Due (deadline now : Rat) : Prop :=
  deadline ≤ now ∨ ∃ q, deadline = nearest q ∧ twoPow (-10) ≤ q

theorem due_of_told {ms : Int} {span now : Rat} (told : double.seconds ms = .ok span) (positive : 0 ≤ now)
    (shown : double.near now = now) (early : now ≤ horizon) : Due (double.near (now + span)) now := by
  have within : |now| ≤ twoPow 33 := by rwa [abs_of_nonneg positive]
  have timely : Timely now := within_weaken within (by decide)
  rw [double_near_of_within (by decide) (by decide) within] at shown
  rcases le_or_gt ms 0 with nonpos | some
  · have := seconds_nonpos told nonpos
    exact .inl (near_le_of_le shown (by linarith))
  · have := seconds_pos told some
    exact .inr ⟨now + span, (deadline_within told timely).1, by linarith⟩

/-- `n` retries are enough for the time that is left: none is needed any more, or one for a rest that only
rounding has left, or one for each sleep that passes half an interval and two for the rest. -/
def Enough (n : Nat) (left poll : Rat) : Prop :=
  left ≤ 0 ∨ 1 ≤ n ∧ left ≤ twoPow (-17) ∨ 2 ≤ n ∧ left ≤ (n - 2) * (poll / 2)

theorem enough_retryBound {wait : Wait} (positive : 0 < wait.poll) (now : Rat) :
    Enough (retryBound wait now) (wait.deadline - now) wait.poll := by
  have up : (wait.deadline - now) / wait.poll ≤ (((wait.deadline - now) / wait.poll).ceil : Rat) := Rat.le_ceil
  have whole : (((wait.deadline - now) / wait.poll).ceil : Rat) ≤
      ((((wait.deadline - now) / wait.poll).ceil.toNat : Int) : Rat) := by
    exact_mod_cast Int.self_le_toNat _
  rw [Int.cast_natCast] at whole
  have sleeps : wait.deadline - now ≤ (((wait.deadline - now) / wait.poll).ceil.toNat : Rat) * wait.poll :=
    (div_le_iff₀ positive).mp (up.trans whole)
  refine .inr (.inr ⟨Nat.le_add_left _ _, ?_⟩)
  rw [retryBound]
  push_cast
  linarith

/-- A sleep that ends in sight of the horizon is slept but for a small error. -/
theorem slept_error {before span after : Rat} (positive : 0 ≤ before) (forward : 0 ≤ span)
    (slept : double.near (before + span) ≤ after) (ends : after ≤ horizon) :
    before + span ≤ twoPow 34 ∧ before + span - twoPow (-19) ≤ after := by
  have inSight : before + span ≤ twoPow 34 := by
    by_contra far
    have late := twoPow_le_near (by decide) (by decide) (not_le.mp far).le
    have beyond : horizon < twoPow 34 := Binary64.twoPow_lt_iff.mpr (by decide)
    linarith
  have error := near_error (k := 34) (by decide) (by decide)
    (show |before + span| ≤ twoPow 34 by rwa [abs_of_nonneg (by linarith)])
  have low := (abs_le.mp error).1
  rw [show (34 - 53 : Int) = -19 by decide] at low
  exact ⟨inSight, by linarith⟩

section Sleeps
variable {n : Nat} {deadline poll before after : Rat} (step : twoPow (-10) ≤ poll) (positive : 0 ≤ before)
  (left : 0 < deadline - before) (ends : after ≤ horizon) (enough : Enough (n + 1) (deadline - before) poll)
include positive left ends enough

include step in
/-- After an interval, of which rounding takes less than half. -/
theorem enough_after_interval (whole : poll ≤ double.near (deadline - before))
    (slept : double.near (before + poll) ≤ after) : Enough n (deadline - after) poll := by
  have pos := Binary64.twoPow_pos (-10)
  obtain ⟨-, low⟩ := slept_error positive (by linarith) slept ends
  have small : twoPow (-19) ≤ twoPow (-10) / 2 := by norm_num [twoPow]
  rcases enough with none | ⟨-, rest⟩ | ⟨some, sleeps⟩
  · linarith
  · have short := near_le_of_le (Binary64.nearest_twoPow (by decide)) rest
    have less : twoPow (-17) < twoPow (-10) := Binary64.twoPow_lt_iff.mpr (by decide)
    linarith
  · push_cast at sleeps
    rcases Nat.lt_or_ge n 2 with one | more
    · obtain rfl : n = 1 := by omega
      push_cast at sleeps
      linarith
    · exact .inr (.inr ⟨more, by linarith⟩)

/-- After a sleep of all that is left: it ends on the deadline if rounding alone had left it, and close to it
in any case. -/
theorem enough_after_rest (due : ∃ q, deadline = nearest q ∧ twoPow (-10) ≤ q)
    (slept : double.near (before + double.near (deadline - before)) ≤ after) :
    Enough n (deadline - after) poll := by
  obtain ⟨inSight, low⟩ := slept_error positive (near_nonneg left.le) slept ends
  rcases enough with none | ⟨-, rest⟩ | ⟨some, -⟩
  · linarith
  · refine .inl ?_
    obtain ⟨q, rfl, large⟩ := due
    have error := near_error (k := -17) (by decide) (by decide)
      (show |nearest q - before| ≤ twoPow (-17) by rwa [abs_of_pos left])
    have absorbed := Binary64.nearest_absorbs (by decide) (le_trans large (le_abs_self q)) error
    rw [show nearest q + (double.near (nearest q - before) - (nearest q - before)) =
      before + double.near (nearest q - before) by ring] at absorbed
    rw [double_near_of_within (k := 34) (by decide) (by decide)
      (by rwa [abs_of_nonneg (by linarith [near_nonneg left.le])]), absorbed] at slept
    linarith
  · have near : deadline - before ≤ twoPow 35 := by
      by_contra far
      have late := twoPow_le_near (by decide) (by decide) (not_le.mp far).le
      have beyond : twoPow 34 < twoPow 35 := Binary64.twoPow_lt_iff.mpr (by decide)
      linarith
    have error := (abs_le.mp (near_error (k := 35) (by decide) (by decide)
      (show |deadline - before| ≤ twoPow 35 by rwa [abs_of_pos left]))).1
    have small : twoPow (35 - 53) + twoPow (-19) ≤ twoPow (-17) := by norm_num [twoPow]
    exact .inr (.inl ⟨by omega, by linarith⟩)

end Sleeps

/-- A sleep uses up one retry, and what it leaves is enough again. -/
theorem enough_after_sleep {n : Nat} {deadline poll before after : Rat} (step : twoPow (-10) ≤ poll)
    (positive : 0 ≤ before) (due : Due deadline before) (early : 0 < double.near (deadline - before))
    (slept : double.near (before + shorter poll (double.near (deadline - before))) ≤ after)
    (ends : after ≤ horizon) (enough : Enough (n + 1) (deadline - before) poll) :
    Enough n (deadline - after) poll := by
  have left : 0 < deadline - before := by
    by_contra passed
    exact absurd early (not_lt.mpr (near_nonpos (not_lt.mp passed)))
  unfold shorter at slept
  split at slept
  · exact enough_after_interval step positive left ends enough ‹_› slept
  · exact enough_after_rest positive left ends enough (due.resolve_left (by linarith)) slept

/-- What happens to a world whose clock keeps time: it keeps it, and never goes back. -/
def Onward (h : Host W P H C) (timed : W → Prop) (w w' : W) : Prop :=
  timed w → timed w' ∧ h.now w ≤ h.now w'

instance (h : Host W P H C) (timed : W → Prop) : IsPreorder W (Onward h timed) where
  refl _ begun := ⟨begun, le_refl _⟩
  trans _ _ _ first second begun := by
    obtain ⟨mid, on⟩ := first begun
    obtain ⟨last, later⟩ := second mid
    exact ⟨last, on.trans later⟩

/-- Worlds whose clock shows numbers of the binary format from zero on, does not go back, and moves on by what
is slept. -/
structure Timed (h : Host W P H C) (page : P) (timed : W → Prop) : Prop where
  precision : h.precision = .double
  positive : ∀ {w}, timed w → 0 ≤ h.now w
  shows : ∀ {w}, timed w → double.near (h.now w) = h.now w
  navigate : ∀ visit, Moves (Onward h timed) (h.navigate page visit)
  waitFor : ∀ selector ms root, Moves (Onward h timed) (h.waitFor page selector ms root)
  queryAll : ∀ selector root, Moves (Onward h timed) (h.queryAll page selector root)
  extract : ∀ root selector attr, Moves (Onward h timed) (h.extract page root selector attr)
  sleep : ∀ {span}, 0 ≤ span → ∀ w, Onward h timed w (h.sleep span w)
  slept : ∀ {span w}, timed w → 0 ≤ span → double.near (h.now w + span) ≤ h.now (h.sleep span w)

theorem InTurn.relates {ι κ α : Type} {ask : ι → W → List κ → Except Failure α → W → Prop}
    {R : W → W → Prop} [IsPreorder W R] {is : List ι} {w w' : W} {calls : List κ}
    {out : Except Failure (List α)} (asked : InTurn ask is w calls out w')
    (each : ∀ {i w calls out w'}, ask i w calls out w' → R w w') : R w w' := by
  induction asked with
  | nil w => exact refl w
  | next first others ih => exact IsTrans.trans _ _ _ (each first) ih
  | stop failed => exact each failed

theorem Answers.relates {α : Type} {h : Host W P H C} {page : P} {call : PageCall H} {act : Act W α}
    {R : W → W → Prop} (moves : Moves R act) {w w' : W} {calls : List (NotedCall P H)} {out : Except Failure α}
    (answers : Answers h page call act w calls out w') : R w w' := by
  have moved := moves w
  rwa [answers.2] at moved

namespace Timed
variable {h : Host W P H C} {page : P} {timed : W → Prop} (keeps : Timed h page timed)
include keeps

section Waits
variable {wait : Wait} {root : Option H} {w w' : W} {calls : List (NotedCall P H)} {out : Except Failure Unit}

theorem polled_onward {n : Nat} (positive : 0 ≤ wait.poll) (polled : Polled h wait page root n w calls out w') :
    Onward h timed w w' := by
  induction polled with
  | found told asked => exact Answers.relates (keeps.waitFor _ _ _) asked
  | raised told asked other => exact Answers.relates (keeps.waitFor _ _ _) asked
  | expired told asked timeout late => exact Answers.relates (keeps.waitFor _ _ _) asked
  | restless told asked timeout early refused => exact Answers.relates (keeps.waitFor _ _ _) asked
  | @again n ms w w₁ w₂ calls more f out told asked timeout early taken later ih =>
    have called : Onward h timed w w₁ := Answers.relates (keeps.waitFor _ _ _) asked
    have slept := keeps.sleep (shorter_nonneg positive early.le) w₁
    exact IsTrans.trans _ _ _ called (IsTrans.trans _ _ _ slept ih)
  | unclocked fault => exact refl _

/-- With enough retries, it is never for want of them that a wait ends. -/
theorem asked_of_polled {n : Nat} (step : twoPow (-10) ≤ wait.poll)
    (polled : Polled h wait page root n w calls out w') (begun : timed w) (ends : h.now w' ≤ horizon)
    (due : Due wait.deadline (h.now w)) (enough : Enough n (wait.deadline - h.now w) wait.poll) :
    Asked h wait page root w calls out w' := by
  have positive := le_trans (Binary64.twoPow_pos _).le step
  -- a call can only use up what is left
  have called {n : Nat} {ms : Int} {w w₁ : W} {calls out}
      (asked : WaitedFor h page wait.selector ms root w calls out w₁)
      (begun : timed w) (enough : Enough n (wait.deadline - h.now w) wait.poll) :
      timed w₁ ∧ h.now w ≤ h.now w₁ ∧ Enough n (wait.deadline - h.now w₁) wait.poll := by
    have moved : Onward h timed w w₁ := Answers.relates (keeps.waitFor _ _ _) asked
    obtain ⟨still, on⟩ := moved begun
    refine ⟨still, on, ?_⟩
    rcases enough with none | ⟨one, rest⟩ | ⟨some, sleeps⟩
    · exact .inl (by linarith)
    · exact .inr (.inl ⟨one, by linarith⟩)
    · exact .inr (.inr ⟨some, by linarith⟩)
  induction polled with
  | found told asked => exact .found told asked
  | raised told asked other => exact .raised told asked other
  | expired told asked timeout late =>
    refine .expired told asked timeout ?_
    rcases late with rfl | late
    · obtain ⟨-, -, none | ⟨never, -⟩ | ⟨never, -⟩⟩ := called asked begun enough
      · rw [keeps.precision]
        exact near_nonpos none
      · cases never
      · cases never
    · exact late
  | restless told asked timeout early refused => exact .restless told asked timeout early refused
  | @again n ms w w₁ w₂ calls more f out told asked timeout early taken later ih =>
    refine .again told asked timeout early taken ?_
    obtain ⟨still, on, enough⟩ := called asked begun enough
    have forward := shorter_nonneg positive early.le
    obtain ⟨still', on'⟩ := keeps.sleep forward w₁ still
    have slept := keeps.slept still forward
    have ended := (keeps.polled_onward positive later still').2.trans ends
    have due : Due wait.deadline (h.now w₁) := due.imp_left (le_trans · on)
    refine ih still' ends (due.imp_left (le_trans · on')) ?_
    generalize h.sleep _ w₁ = v at slept ended ⊢
    rw [keeps.precision] at early slept
    exact enough_after_sleep step (keeps.positive still) due early slept ended enough
  | unclocked fault => exact .unclocked fault

end Waits

section Steps
variable {d : Defaults} {selector : String} {timeoutMs : Int} {deadline : Rat} {w w' : W}
  {calls : List (NotedCall P H)}

/-- An interval is a millisecond or more. -/
theorem interval_step {poll : Rat} (interval : h.precision.seconds (max d.pollIntervalMs 1) = .ok poll) :
    twoPow (-10) ≤ poll := by
  rw [keeps.precision] at interval
  exact seconds_pos interval (le_max_right _ _)

theorem attended_onward {root : Option H} {out : Except Failure Unit}
    (attended : Attended h d page selector timeoutMs deadline root w calls out w') : Onward h timed w w' := by
  cases attended with
  | polled interval polled =>
    have step := keeps.interval_step interval
    exact keeps.polled_onward (le_trans (Binary64.twoPow_pos _).le step) polled
  | unclocked fault => exact refl _

theorem awaited_of_attended {root : Option H} {out : Except Failure Unit}
    (attended : Attended h d page selector timeoutMs deadline root w calls out w') (begun : timed w)
    (ends : h.now w' ≤ horizon) (due : Due deadline (h.now w)) :
    Awaited h d page selector timeoutMs deadline root w calls out w' := by
  cases attended with
  | polled interval polled =>
    have step := keeps.interval_step interval
    refine .asked interval (keeps.asked_of_polled step polled begun ends due ?_)
    exact enough_retryBound ((Binary64.twoPow_pos _).trans_le step) (h.now w)
  | unclocked fault => exact .unclocked fault

/-- All roots of a wait have the deadline that it began with. -/
theorem awaited_inTurn {roots : List (Option H)} {out : Except Failure (List Unit)}
    (asked : InTurn (Attended h d page selector timeoutMs deadline) roots w calls out w') (begun : timed w)
    (ends : h.now w' ≤ horizon) (due : Due deadline (h.now w)) :
    InTurn (Awaited h d page selector timeoutMs deadline) roots w calls out w' := by
  induction asked with
  | nil w => exact .nil w
  | next first others ih =>
    obtain ⟨still, on⟩ := keeps.attended_onward first begun
    have ended := (others.relates keeps.attended_onward still).2.trans ends
    exact .next (keeps.awaited_of_attended first begun ended due) (ih still ends (due.imp_left (le_trans · on)))
  | stop failed => exact .stop (keeps.awaited_of_attended failed begun ends due)

variable {roots : List (Option H)} {s : Step C} {out : Except Failure (List Record)}

theorem step_onward (means : StepMeans h d (Attended h d page) page roots s w calls out w') :
    Onward h timed w w' := by
  cases means with
  | visited asked shown accepted => exact Answers.relates (keeps.navigate _) asked
  | unreachable asked => exact Answers.relates (keeps.navigate _) asked
  | blank asked nothing => exact Answers.relates (keeps.navigate _) asked
  | refused asked shown status bad => exact Answers.relates (keeps.navigate _) asked
  | waited timeout told asked => exact asked.relates keeps.attended_onward
  | untimed fault => exact refl _
  | grouped asked => exact asked.relates (Answers.relates (keeps.queryAll _ _))
  | selected asked =>
    refine asked.relates fun read => ?_
    obtain ⟨values, read, -⟩ := read
    exact read.relates (Answers.relates (keeps.extract _ _ _))

theorem step_of_attended (means : StepMeans h d (Attended h d page) page roots s w calls out w')
    (begun : timed w) (ends : h.now w' ≤ horizon) :
    StepMeans h d (Awaited h d page) page roots s w calls out w' := by
  have early := (keeps.step_onward means begun).2.trans ends
  cases means with
  | visited asked shown accepted => exact .visited asked shown accepted
  | unreachable asked => exact .unreachable asked
  | blank asked nothing => exact .blank asked nothing
  | refused asked shown status bad => exact .refused asked shown status bad
  | waited timeout told asked =>
    refine .waited timeout told (keeps.awaited_inTurn asked begun ends ?_)
    rw [keeps.precision] at told ⊢
    exact due_of_told told (keeps.positive begun) (keeps.shows begun) early
  | untimed fault => exact .untimed fault
  | grouped asked => exact .grouped asked
  | selected asked => exact .selected asked

end Steps

theorem meaning_onward {reads : Reads h page K} {d : Defaults} {before rest : List (Step C)} {w w' : W}
    {calls : List (NotedCall P H)} {out : Except Failure (List Record)}
    (means : Meaning reads d (Attended h d page) before rest w calls out w') : Onward h timed w w' := by
  induction means with
  | done before w => exact refl _
  | next first others ih => exact IsTrans.trans _ _ _ (keeps.step_onward first) ih
  | stop failed => exact keeps.step_onward failed

/-- While the clock keeps time, steps mean what they mean without a bound on retries. -/
theorem meaning_of_attended {reads : Reads h page K} {d : Defaults} {before rest : List (Step C)} {w w' : W}
    {calls : List (NotedCall P H)} {out : Except Failure (List Record)}
    (means : Meaning reads d (Attended h d page) before rest w calls out w') (begun : timed w)
    (ends : h.now w' ≤ horizon) : Meaning reads d (Awaited h d page) before rest w calls out w' := by
  induction means with
  | done before w => exact .done before w
  | next first others ih =>
    obtain ⟨still, -⟩ := keeps.step_onward first begun
    have ended := (keeps.meaning_onward others still).2.trans ends
    exact .next (keeps.step_of_attended first begun ended) (ih still ends)
  | stop failed => exact .stop (keeps.step_of_attended failed begun ends)

end Timed
end PageHarvest.Replay

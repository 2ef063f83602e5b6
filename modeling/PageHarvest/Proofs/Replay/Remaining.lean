import PageHarvest.Proofs.Failure
import PageHarvest.Proofs.Number.Rounding
import PageHarvest.Replay.Handler.Wait

/-!
What remains of a wait, in the binary format. Timeouts can be so long that milliseconds cannot tell
them. Whether that is so depends on the timeout alone and not on the instant that the wait begins at,
since an instant is too small to show beside such a timeout.
-/
namespace PageHarvest.Precision
open Binary64
open Handler (callTimeout)

/-- Instants that a clock shows, by a wide margin. -/
def Timely (t : Rat) : Prop :=
  |t| ≤ twoPow 900

section Range
variable {a b : Rat} {k : Int}

theorem within_weaken {l : Int} (within : |a| ≤ twoPow k) (more : k ≤ l) : |a| ≤ twoPow l :=
  le_trans within (twoPow_le_iff.mpr more)

theorem within_add {l n : Int} (a_within : |a| ≤ twoPow k) (b_within : |b| ≤ twoPow l) (k_lt : k < n)
    (l_lt : l < n) : |a + b| ≤ twoPow n := by
  have doubled := twoPow_succ (n - 1)
  have k_le : twoPow k ≤ twoPow (n - 1) := twoPow_le_iff.mpr (by omega)
  have l_le : twoPow l ≤ twoPow (n - 1) := twoPow_le_iff.mpr (by omega)
  rw [Int.sub_add_cancel] at doubled
  have sum := abs_add_le a b
  linarith

theorem within_sub {l n : Int} (a_within : |a| ≤ twoPow k) (b_within : |b| ≤ twoPow l) (k_lt : k < n)
    (l_lt : l < n) : |a - b| ≤ twoPow n := by
  rw [sub_eq_add_neg]
  exact within_add a_within ((abs_neg b).symm ▸ b_within) k_lt l_lt

theorem within_twoPow (k : Int) : |twoPow k| ≤ twoPow k :=
  le_of_eq (abs_of_pos (twoPow_pos k))

theorem nearest_le_add {l : Int} (normal : -1022 ≤ k) (within : |a| ≤ twoPow k) (less : k - 53 ≤ l) :
    nearest a ≤ a + twoPow l := by
  have error := (abs_le.mp (nearest_error normal within)).2
  have more : twoPow (k - 53) ≤ twoPow l := twoPow_le_iff.mpr less
  linarith

theorem le_nearest (normal : -1022 ≤ k) (low : -twoPow k ≤ a) : -twoPow k ≤ nearest a := by
  rw [← nearest_twoPow normal, ← nearest_neg]
  exact nearest_mono low

theorem within_thousandfold (within : |a| ≤ twoPow k) : |a * 1000| ≤ twoPow (k + 10) := by
  have power : twoPow 10 = 1024 := by norm_num [twoPow]
  rw [abs_mul, twoPow_add, power, abs_of_pos (show (0 : Rat) < 1000 by norm_num)]
  have pos := twoPow_pos k
  linarith

theorem double_near_of_within (normal : -1022 ≤ k) (top : k ≤ 1023) (within : |a| ≤ twoPow k) :
    double.near a = nearest a :=
  double_near (lt_of_le_of_lt (abs_nearest_le normal within) (twoPow_lt_iff.mpr (by omega)))

theorem abs_near_le (normal : -1022 ≤ k) (top : k ≤ 1023) (within : |a| ≤ twoPow k) :
    |double.near a| ≤ twoPow k := by
  rw [double_near_of_within normal top within]
  exact abs_nearest_le normal within

theorem le_near (normal : -1022 ≤ k) (low : -twoPow k ≤ a) : -twoPow k ≤ double.near a := by
  unfold near
  rw [double_keep]
  split
  · exact le_nearest normal low
  · exact low

theorem near_nonpos (nonpos : a ≤ 0) : double.near a ≤ 0 := by
  have rounded := nearest_nonneg (neg_nonneg.mpr nonpos)
  rw [nearest_neg] at rounded
  unfold near
  rw [double_keep]
  split
  · exact neg_nonneg.mp rounded
  · exact nonpos

theorem near_nonneg (nonneg : 0 ≤ a) : 0 ≤ double.near a := by
  unfold near
  rw [double_keep]
  split
  · exact nearest_nonneg nonneg
  · exact nonneg

end Range

theorem Timely.pass {t span : Rat} (timely : Timely t) (short : |span| ≤ twoPow 840) :
    Timely (double.near (t + span)) := by
  have bound : |t + span| ≤ twoPow 900 + twoPow 840 :=
    le_trans (abs_add_le t span) (add_le_add timely short)
  have absorbed : nearest (twoPow 900 + twoPow 840) = twoPow 900 :=
    nearest_twoPow_add (by decide) (le_of_lt (twoPow_pos _)) (twoPow_lt_iff.mpr (by decide))
  have wide : |t + span| ≤ twoPow 901 := within_add timely short (by decide) (by decide)
  rw [Timely, double_near_of_within (by decide) (by decide) wide, abs_nearest, ← absorbed]
  exact nearest_mono bound

theorem milliseconds_eq (s : Rat) : double.milliseconds s =
    if |nearest (s * 1000)| < twoPow 1024 then .ok (nearest (s * 1000))
    else .error (Cause.overflow "cannot convert float infinity to integer") := by
  rw [milliseconds, double_keep]
  split
  · rename_i kept
    split at kept
    · cases kept
    · rename_i large
      rw [if_neg large]
  · rename_i kept
    split at kept
    · rename_i small
      cases kept
      rw [if_pos small]
    · cases kept

theorem milliseconds_ok_of_within {s : Rat} {k : Int} (normal : -1022 ≤ k) (top : k ≤ 1013)
    (within : |s| ≤ twoPow k) : double.milliseconds s = .ok (nearest (s * 1000)) := by
  have small := abs_nearest_le (by omega) (within_thousandfold within)
  rw [milliseconds_eq, if_pos (lt_of_le_of_lt small (twoPow_lt_iff.mpr (by omega)))]

theorem seconds_ok {ms : Int} {span : Rat} (told : double.seconds ms = .ok span) :
    ∃ q, span = nearest q ∧ |span| ≤ twoPow 1015 ∧ (0 ≤ ms → 0 ≤ span) := by
  rw [seconds, double_keep] at told
  split at told
  · cases told
  · rename_i x kept
    split at kept
    · rename_i fits
      cases kept
      cases told
      have thousandth : |nearest (ms : Rat) / 1000| ≤ twoPow 1015 := by
        have power : twoPow 1024 = twoPow 1015 * 512 := by
          have split : twoPow (1015 + 9) = twoPow 1015 * twoPow 9 := twoPow_add 1015 9
          have nine : twoPow 9 = 512 := by norm_num [twoPow]
          rw [← nine, ← split]
          rfl
        have pos := twoPow_pos 1015
        rw [power] at fits
        rw [abs_div, abs_of_pos (show (0 : Rat) < 1000 by norm_num), div_le_iff₀ (by norm_num)]
        linarith
      refine ⟨nearest (ms : Rat) / 1000, ?_, abs_near_le (by decide) (by decide) thousandth, ?_⟩
      · exact double_near_of_within (by decide) (by decide) thousandth
      · intro nonneg
        exact near_nonneg (div_nonneg (nearest_nonneg (Int.cast_nonneg nonneg)) (by norm_num))
    · cases kept

theorem interval_nonneg {n : Int} {interval : Rat} (told : double.seconds (max n 1) = .ok interval) :
    0 ≤ interval := by
  obtain ⟨-, -, -, forward⟩ := seconds_ok told
  exact forward (le_max_of_le_right Int.one_nonneg)

theorem nearest_absorbs_instant {q t : Rat} (long : twoPow 1000 < |nearest q|) (timely : Timely t) :
    nearest (nearest q + t) = nearest q := by
  have large : twoPow 1000 ≤ |q| := by
    by_contra small
    exact absurd (abs_nearest_le (by decide) (le_of_lt (not_le.mp small))) (not_le.mpr long)
  exact nearest_absorbs (by decide) large (within_weaken timely (by decide))

theorem exists_int_of_long {q : Rat} (long : twoPow 1000 < |nearest q|) : ∃ n : Int, nearest q = n := by
  have whole {q : Rat} (nonneg : 0 ≤ q) (long : twoPow 1000 < |nearest q|) :
      ∃ n : Int, nearest q = n := by
    rw [nearest_of_nonneg nonneg] at long ⊢
    refine exists_int_of_large ?_
    by_contra less
    have low : |q| ≤ twoPow 1000 := by
      rw [abs_of_nonneg nonneg]
      exact le_trans (le_of_lt (not_le.mp less)) (twoPow_le_iff.mpr (by decide))
    have short := abs_nearest_le (by decide) low
    rw [nearest_of_nonneg nonneg] at short
    exact absurd long (not_lt.mpr short)
  rcases le_total 0 q with nonneg | nonpos
  · exact whole nonneg long
  · rw [← neg_neg q, nearest_neg, abs_neg] at long
    obtain ⟨n, same⟩ := whole (neg_nonneg.mpr nonpos) long
    refine ⟨-n, ?_⟩
    rw [nearest_neg] at same
    rw [Int.cast_neg, ← same, neg_neg]

/-- Rounded up to a whole number, what fits the format still does. -/
theorem ceil_fits {q : Rat} (fits : |nearest q| < twoPow 1024) :
    |nearest ((nearest q).ceil : Rat)| < twoPow 1024 := by
  by_cases long : twoPow 1000 < |nearest q|
  · obtain ⟨n, same⟩ := exists_int_of_long long
    have fixed : nearest (nearest q + 0) = nearest q :=
      nearest_absorbs_instant long (by
        rw [Timely, abs_zero]
        exact le_of_lt (twoPow_pos _))
    rw [add_zero] at fixed
    rw [same, Rat.ceil_intCast, ← same, fixed]
    exact fits
  · have within := not_lt.mp long
    have low : nearest q ≤ ((nearest q).ceil : Rat) := Rat.le_ceil
    have high : ((nearest q).ceil : Rat) < nearest q + 1 := Rat.ceil_lt
    have rounded : |((nearest q).ceil : Rat) - nearest q| ≤ twoPow 0 := by
      have one : twoPow 0 = 1 := rfl
      rw [one, abs_of_nonneg (by linarith)]
      linarith
    have wide : |((nearest q).ceil : Rat)| ≤ twoPow 1001 := by
      have sum := within_add within rounded (n := 1001) (by decide) (by decide)
      rwa [add_sub_cancel] at sum
    exact lt_of_le_of_lt (abs_nearest_le (by decide) wide) (twoPow_lt_iff.mpr (by decide))

/-- The timeout of a call can be told in seconds again. -/
theorem seconds_of_callTimeout {deadline now : Rat} {ms : Int}
    (told : callTimeout double deadline now = .ok ms) :
    ∃ span, double.seconds ms = .ok span ∧ 0 ≤ span := by
  unfold callTimeout at told
  rw [milliseconds_eq] at told
  generalize double.near (deadline - now) * 1000 = remaining at told
  split at told
  · rename_i fits
    cases told
    have one_fits : |nearest ((1 : Int) : Rat)| < twoPow 1024 := by
      have one_within : |((1 : Int) : Rat)| ≤ twoPow 0 := by
        rw [Int.cast_one, abs_one]
        exact le_refl 1
      exact lt_of_le_of_lt (abs_nearest_le (by decide) one_within) (twoPow_lt_iff.mpr (by decide))
    have bounded : |nearest ((max 1 (nearest remaining).ceil : Int) : Rat)| < twoPow 1024 := by
      rcases max_choice 1 (nearest remaining).ceil with least | rest
      · rw [least]
        exact one_fits
      · rw [rest]
        exact ceil_fits fits
    have positive : (0 : Rat) ≤ ((max 1 (nearest remaining).ceil : Int) : Rat) :=
      Int.cast_nonneg (le_trans Int.one_nonneg (le_max_left _ _))
    refine ⟨double.near (nearest ((max 1 (nearest remaining).ceil : Int) : Rat) / 1000), ?_, ?_⟩
    · rw [seconds, double_keep, if_pos bounded]
    · exact near_nonneg (div_nonneg (nearest_nonneg positive) (by norm_num))
  · cases told

/-- Timeouts that calls of a page are given. -/
structure Askable (ms : Int) : Prop where
  least : 1 ≤ ms
  told : ∃ span, double.seconds ms = .ok span

theorem askable_of_callTimeout {deadline now : Rat} {ms : Int}
    (told : callTimeout double deadline now = .ok ms) : Askable ms where
  least := by
    obtain ⟨x, -, same⟩ := bind_ok_iff.mp told
    cases same
    exact le_max_left _ _
  told := by
    obtain ⟨span, told, -⟩ := seconds_of_callTimeout told
    exact ⟨span, told⟩

theorem callTimeout_ok {deadline now x : Rat}
    (told : double.milliseconds (double.near (deadline - now)) = .ok x) :
    callTimeout double deadline now = .ok (max 1 x.ceil) := by
  rw [callTimeout, told]
  rfl

/-- A sleep for which there is time before a deadline goes beyond it by rounding at most. -/
theorem woken_near_deadline {deadline later sleep : Rat} (top : |deadline| ≤ twoPow 1016)
    (on : -twoPow 900 ≤ later) (early : 0 < double.near (deadline - later)) (positive : 0 ≤ sleep)
    (short : sleep ≤ double.near (deadline - later)) :
    -twoPow 900 ≤ double.near (later + sleep) ∧
      double.near (later + sleep) ≤ deadline + twoPow 966 ∧
      |double.near (later + sleep)| ≤ twoPow 1018 := by
  have before : later < deadline := by
    by_contra past
    exact absurd early (not_lt.mpr (near_nonpos (by linarith)))
  have later_within : |later| ≤ twoPow 1016 := by
    have less : twoPow 900 < twoPow 1016 := twoPow_lt_iff.mpr (by decide)
    have high := (abs_le.mp top).2
    rw [abs_le]
    constructor
    · linarith
    · linarith
  have room_within : |deadline - later| ≤ twoPow 1017 :=
    within_sub top later_within (by decide) (by decide)
  rw [double_near_of_within (by decide) (by decide) room_within] at short
  have room_error : nearest (deadline - later) ≤ deadline - later + twoPow 965 :=
    nearest_le_add (by decide) room_within (by decide)
  have sleep_within : |sleep| ≤ twoPow 1017 := by
    rw [abs_of_nonneg positive]
    exact le_trans short (abs_le.mp (abs_nearest_le (by decide) room_within)).2
  have woken_within : |later + sleep| ≤ twoPow 1018 :=
    within_add later_within sleep_within (by decide) (by decide)
  have woken_error : nearest (later + sleep) ≤ later + sleep + twoPow 965 :=
    nearest_le_add (by decide) woken_within (by decide)
  have doubled : twoPow 966 = twoPow 965 + twoPow 965 := twoPow_succ 965
  rw [double_near_of_within (by decide) (by decide) woken_within]
  refine ⟨le_nearest (by decide) (by linarith), ?_, abs_nearest_le (by decide) woken_within⟩
  linarith

section Waits
variable {ms : Int} {span now : Rat} (told : double.seconds ms = .ok span) (timely : Timely now)
include told timely

theorem deadline_within : double.near (now + span) = nearest (now + span) ∧
    |double.near (now + span)| ≤ twoPow 1016 := by
  obtain ⟨q, -, within, -⟩ := seconds_ok told
  have wide : |now + span| ≤ twoPow 1016 := within_add timely within (by decide) (by decide)
  exact ⟨double_near_of_within (by decide) (by decide) wide, abs_near_le (by decide) (by decide) wide⟩

/-- Either all spans up to the deadline are short, or instants do not show beside the timeout. -/
theorem deadline_cases : |double.near (now + span)| ≤ twoPow 1001 ∧ |span| ≤ twoPow 1000 ∨
    twoPow 1000 < |span| ∧ double.near (now + span) = span ∧
      ∀ t, Timely t → nearest (span + t) = span := by
  obtain ⟨q, same, within, -⟩ := seconds_ok told
  by_cases long : twoPow 1000 < |span|
  · have absorbs (t : Rat) (timely : Timely t) : nearest (span + t) = span := by
      rw [same] at long ⊢
      exact nearest_absorbs_instant long timely
    refine .inr ⟨long, ?_, absorbs⟩
    rw [(deadline_within told timely).1, add_comm, absorbs now timely]
  · have short := not_lt.mp long
    have wide : |now + span| ≤ twoPow 1001 := within_add timely short (by decide) (by decide)
    exact .inl ⟨abs_near_le (by decide) (by decide) wide, short⟩

/-- Whether the remaining time can be told at an instant is a matter of the timeout alone. -/
theorem milliseconds_at {t : Rat} (shown : Timely t) :
    (double.milliseconds (double.near (double.near (now + span) - t))).map (fun _ => ()) =
      (double.milliseconds span).map fun _ => () := by
  rcases deadline_cases told timely with ⟨near, short⟩ | ⟨long, same, absorbs⟩
  · have wide : |double.near (now + span) - t| ≤ twoPow 1002 :=
      within_sub near shown (by decide) (by decide)
    rw [milliseconds_ok_of_within (by decide) (by decide) (abs_near_le (by decide) (by decide) wide),
      milliseconds_ok_of_within (by decide) (by decide) short]
    rfl
  · obtain ⟨q, -, within, -⟩ := seconds_ok told
    have wide : |span - t| ≤ twoPow 1016 := within_sub within shown (by decide) (by decide)
    have negated : Timely (-t) := by
      rw [Timely, abs_neg]
      exact shown
    rw [same, double_near_of_within (by decide) (by decide) wide, sub_eq_add_neg, absorbs _ negated]

/-- When it can be told at the start, it can be told later, as long as the deadline is passed by rounding
at most. -/
theorem milliseconds_of_left {x : Rat} (plain : double.milliseconds span = .ok x) {woken : Rat}
    (on : -twoPow 900 ≤ woken) (passed : woken ≤ double.near (now + span) + twoPow 966)
    (within : |woken| ≤ twoPow 1018) :
    ∃ y, double.milliseconds (double.near (double.near (now + span) - woken)) = .ok y := by
  have top := (deadline_within told timely).2
  have cases := deadline_cases told timely
  generalize double.near (now + span) = deadline at *
  have left_within : |deadline - woken| ≤ twoPow 1019 := within_sub top within (by decide) (by decide)
  rw [double_near_of_within (by decide) (by decide) left_within, milliseconds_eq]
  have left_low : -twoPow 966 ≤ nearest (deadline - woken) := le_nearest (by decide) (by linarith)
  have left_high : nearest (deadline - woken) ≤ nearest (deadline + twoPow 900) :=
    nearest_mono (by linarith)
  generalize nearest (deadline - woken) = left at *
  have told_low : -twoPow 976 ≤ nearest (left * 1000) := by
    refine le_nearest (by decide) ?_
    have bound := le_trans (le_abs_self _) (within_thousandfold (within_twoPow 966))
    rw [show (966 + 10 : Int) = 976 by decide] at bound
    linarith
  -- `double.near` may round past the deadline, but not past what could be told at the start
  have told_high : nearest (left * 1000) < twoPow 1024 := by
    rcases cases with ⟨near, -⟩ | ⟨long, same, absorbs⟩
    · have wide : |deadline + twoPow 900| ≤ twoPow 1002 :=
        within_add near (within_twoPow 900) (by decide) (by decide)
      have most := within_thousandfold (abs_nearest_le (by decide) wide)
      have less : nearest (left * 1000) ≤ nearest (nearest (deadline + twoPow 900) * 1000) :=
        nearest_mono (by linarith)
      have high := (abs_le.mp (abs_nearest_le (by decide) most)).2
      have enough : twoPow (1002 + 10) < twoPow 1024 := twoPow_lt_iff.mpr (by decide)
      linarith
    · subst same
      rw [absorbs _ (within_twoPow 900)] at left_high
      have less : nearest (left * 1000) ≤ nearest (deadline * 1000) := nearest_mono (by linarith)
      rw [milliseconds_eq] at plain
      split at plain
      · rename_i fits
        exact lt_of_le_of_lt less (abs_lt.mp fits).2
      · cases plain
  have bounded : |nearest (left * 1000)| < twoPow 1024 := by
    have less : twoPow 976 < twoPow 1024 := twoPow_lt_iff.mpr (by decide)
    rw [abs_lt]
    exact ⟨by linarith, told_high⟩
  exact ⟨_, if_pos bounded⟩

theorem callTimeout_untold {f : Failure} (untold : double.milliseconds span = .error f) {t : Rat}
    (shown : Timely t) : callTimeout double (double.near (now + span)) t = .error f := by
  have starts := milliseconds_at told timely shown
  rw [untold] at starts
  unfold callTimeout
  cases start : double.milliseconds (double.near (double.near (now + span) - t)) with
  | error f' =>
    rw [start] at starts
    cases starts
    rfl
  | ok x =>
    rw [start] at starts
    cases starts

variable {x : Rat} (plain : double.milliseconds span = .ok x)
include plain

theorem callTimeout_at {t : Rat} (shown : Timely t) :
    ∃ ms, callTimeout double (double.near (now + span)) t = .ok ms := by
  have starts := milliseconds_at told timely shown
  rw [plain] at starts
  cases start : double.milliseconds (double.near (double.near (now + span) - t)) with
  | error f =>
    rw [start] at starts
    cases starts
  | ok y => exact ⟨_, callTimeout_ok start⟩

/-- What can be told at the start can be told again after each sleep for which there was time, on a clock
that shows an instant, or what the sleep makes of it. -/
theorem callTimeout_after_sleep {later sleep woken : Rat} (on : -twoPow 900 ≤ later)
    (early : 0 < double.near (double.near (now + span) - later)) (positive : 0 ≤ sleep)
    (short : sleep ≤ double.near (double.near (now + span) - later)) (awake : -twoPow 900 ≤ woken)
    (passed : woken ≤ max (twoPow 900) (double.near (later + sleep))) :
    ∃ ms, callTimeout double (double.near (now + span)) woken = .ok ms := by
  obtain ⟨-, near, within⟩ :=
    woken_near_deadline (deadline_within told timely).2 on early positive short
  have before : later < double.near (now + span) := by
    by_contra past
    exact absurd early (not_lt.mpr (near_nonpos (by linarith)))
  have small : twoPow 900 < twoPow 1018 := twoPow_lt_iff.mpr (by decide)
  have doubled : twoPow 900 + twoPow 900 ≤ twoPow 966 := by
    rw [← twoPow_succ]
    exact twoPow_le_iff.mpr (by decide)
  have bounds : woken ≤ double.near (now + span) + twoPow 966 ∧ |woken| ≤ twoPow 1018 := by
    rw [abs_le]
    rcases le_max_iff.mp passed with shown | slept
    · exact ⟨by linarith, by linarith, by linarith⟩
    · exact ⟨by linarith, by linarith, by linarith [(abs_le.mp within).2]⟩
  obtain ⟨y, left⟩ := milliseconds_of_left told timely plain awake bounds.1 bounds.2
  exact ⟨_, callTimeout_ok left⟩

end Waits
end PageHarvest.Precision

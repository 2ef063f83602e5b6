import PageHarvest.Proofs.Number.Rounding

/-!
The range of the binary format. A number has no room in it from halfway between the largest number of the
format and the next power of two on, and what has room is rounded to the largest number at most.
-/
namespace PageHarvest.Binary64

/-- The least number that is rounded out of the format. -/
def bound : Rat :=
  twoPow 1024 - twoPow 970

/-- The largest number of the format. -/
def largest : Rat :=
  twoPow 1024 - twoPow 971

theorem bound_pos : 0 < bound := by
  have less : twoPow 970 < twoPow 1024 := twoPow_lt_iff.mpr (by decide)
  rw [bound]
  linarith

/-- Halfway to the next power of two, the even neighbour is that power. -/
theorem settle_bound : settle bound = twoPow 1024 := by
  decide +kernel

theorem exponentFor_le {q : Rat} (positive : 0 < q) (less : q < twoPow 1024) : exponentFor q ≤ 971 := by
  rcases (exponentFor_spec positive).2.2 with full | least
  · have between := twoPow_lt_iff.mp (lt_of_le_of_lt full less)
    omega
  · omega

theorem settle_lt_iff {q : Rat} (nonneg : 0 ≤ q) : settle q < twoPow 1024 ↔ q < bound := by
  constructor
  · intro fits
    by_contra large
    have more := settle_mono (le_of_lt bound_pos) (not_lt.mp large)
    rw [settle_bound] at more
    exact absurd fits (not_lt.mpr more)
  · intro less
    rcases nonneg.eq_or_lt with rfl | positive
    · rw [settle_zero]
      exact twoPow_pos 1024
    · have half := twoPow_pos 970
      rw [bound] at less
      have exponent := exponentFor_le positive (by linarith)
      have spacing : twoPow (exponentFor q - 1) ≤ twoPow 970 := twoPow_le_iff.mpr (by omega)
      have error := (abs_le.mp (settle_near positive)).2
      linarith

/-- What has room in the format is at most its largest number. -/
theorem settle_le_largest {q : Rat} (nonneg : 0 ≤ q) (fits : settle q < twoPow 1024) :
    settle q ≤ largest := by
  rcases nonneg.eq_or_lt with rfl | positive
  · have less : twoPow 971 < twoPow 1024 := twoPow_lt_iff.mpr (by decide)
    rw [settle_zero, largest]
    linarith
  · by_cases carry : roundEven (q / twoPow (exponentFor q)) = Nat.pow 2 53
    · -- a power of two, and so at most the one before the last
      have power := (settle_of_carry carry).2
      rw [power] at fits ⊢
      have below := twoPow_lt_iff.mp fits
      have least : twoPow (exponentFor q + 53) ≤ twoPow 1023 := twoPow_le_iff.mpr (by omega)
      have doubled : twoPow 1024 = twoPow 1023 + twoPow 1023 := twoPow_succ 1023
      have less : twoPow 971 ≤ twoPow 1023 := twoPow_le_iff.mpr (by decide)
      rw [largest]
      linarith
    · have half := twoPow_pos 970
      have small := (settle_lt_iff nonneg).mp fits
      rw [bound] at small
      have exponent := exponentFor_le positive (by linarith)
      have short : roundEven (q / twoPow (exponentFor q)) + 1 ≤ Nat.pow 2 53 :=
        lt_of_le_of_ne (roundEven_scaled_le positive) carry
      have digits : (roundEven (q / twoPow (exponentFor q)) : Rat) ≤ (Nat.pow 2 53 : Nat) - 1 := by
        have cast : ((roundEven (q / twoPow (exponentFor q)) + 1 : Nat) : Rat) ≤ (Nat.pow 2 53 : Nat) :=
          Nat.cast_le.mpr short
        push_cast at cast ⊢
        linarith
      calc settle q ≤ ((Nat.pow 2 53 : Nat) - 1 : Rat) * twoPow (exponentFor q) :=
            mul_le_mul_of_nonneg_right digits (le_of_lt (twoPow_pos _))
        _ ≤ ((Nat.pow 2 53 : Nat) - 1 : Rat) * twoPow 971 :=
            mul_le_mul_of_nonneg_left (twoPow_le_iff.mpr exponent) (by norm_num)
        _ = largest := by decide +kernel

theorem fits_iff (q : Rat) : |nearest q| < twoPow 1024 ↔ |q| < bound := by
  rw [abs_nearest, nearest_of_nonneg (abs_nonneg q)]
  exact settle_lt_iff (abs_nonneg q)

theorem abs_nearest_le_largest {q : Rat} (fits : |nearest q| < twoPow 1024) : |nearest q| ≤ largest := by
  rw [abs_nearest, nearest_of_nonneg (abs_nonneg q)] at fits ⊢
  exact settle_le_largest (abs_nonneg q) fits

end PageHarvest.Binary64

import Mathlib.Algebra.Order.Field.Power
import Mathlib.Data.Rat.Floor
import Mathlib.Tactic.Linarith
import PageHarvest.Replay.Clock

/-!
Rounding to the binary format of 53 significant bits: it keeps the order of numbers, powers of two stay
as they are, and what is small against the spacing of a number is absorbed by it.
-/
namespace PageHarvest.Binary64

theorem twoPow_eq_zpow (e : Int) : twoPow e = (2 : Rat) ^ e := by
  unfold twoPow
  split
  · obtain ⟨n, rfl⟩ : ∃ n : Nat, e = -(n : Int) := ⟨e.natAbs, by omega⟩
    rw [Int.natAbs_neg, Int.natAbs_natCast, zpow_neg, zpow_natCast, Nat.pow_eq, Nat.cast_pow, one_div]
    rfl
  · obtain ⟨n, rfl⟩ : ∃ n : Nat, e = (n : Int) := ⟨e.natAbs, by omega⟩
    rw [Int.natAbs_natCast, zpow_natCast, Nat.pow_eq, Nat.cast_pow]
    rfl

theorem twoPow_pos (e : Int) : 0 < twoPow e := by
  rw [twoPow_eq_zpow]
  exact zpow_pos two_pos e

theorem twoPow_add (a b : Int) : twoPow (a + b) = twoPow a * twoPow b := by
  simp only [twoPow_eq_zpow]
  exact zpow_add₀ two_ne_zero a b

theorem twoPow_le_iff {a b : Int} : twoPow a ≤ twoPow b ↔ a ≤ b := by
  simp only [twoPow_eq_zpow]
  exact zpow_le_zpow_iff_right₀ one_lt_two

theorem twoPow_lt_iff {a b : Int} : twoPow a < twoPow b ↔ a < b := by
  simp only [twoPow_eq_zpow]
  exact zpow_lt_zpow_iff_right₀ one_lt_two

theorem twoPow_natCast (n : Nat) : twoPow n = ((Nat.pow 2 n : Nat) : Rat) := by
  rw [twoPow_eq_zpow, zpow_natCast, Nat.pow_eq, Nat.cast_pow]
  rfl

theorem twoPow_succ (k : Int) : twoPow (k + 1) = twoPow k + twoPow k := by
  rw [twoPow_add, mul_comm, ← two_mul]
  rfl

theorem twoPow_pred (k : Int) : twoPow (k - 1) = 1 / 2 * twoPow k := by
  rw [Int.sub_eq_add_neg, twoPow_add, mul_comm]
  rfl

theorem log2_spec {n : Nat} (positive : n ≠ 0) :
    twoPow (Nat.log2 n) ≤ (n : Rat) ∧ (n : Rat) < twoPow (Nat.log2 n + 1) := by
  constructor
  · rw [twoPow_natCast]
    exact Nat.cast_le.mpr (Nat.log2_self_le positive)
  · rw [← Nat.cast_succ, twoPow_natCast]
    exact Nat.cast_lt.mpr Nat.lt_log2_self

theorem quotient_spec {q : Rat} (positive : 0 < q) :
    twoPow (Nat.log2 q.num.natAbs - Nat.log2 q.den - 1) < q ∧
      q < twoPow (Nat.log2 q.num.natAbs - Nat.log2 q.den + 1) := by
  have num_pos : 0 < q.num := Rat.num_pos.mpr positive
  have den_pos : (0 : Rat) < q.den := Nat.cast_pos.mpr q.den_pos
  obtain ⟨num_low, num_high⟩ := log2_spec (show q.num.natAbs ≠ 0 by omega)
  obtain ⟨den_low, den_high⟩ := log2_spec q.den_nz
  generalize (Nat.log2 q.num.natAbs : Int) = a at *
  generalize (Nat.log2 q.den : Int) = b at *
  have value : q * q.den = (q.num.natAbs : Rat) := by
    have same : ((q.num.natAbs : Int) : Rat) = (q.num : Rat) := by
      rw [Int.natAbs_of_nonneg (Int.le_of_lt num_pos)]
    rw [Rat.mul_den_eq_num]
    exact same.symm
  constructor
  · have split : twoPow (a - b - 1) * twoPow (b + 1) = twoPow a := by
      rw [← twoPow_add]
      congr 1
      omega
    have less := mul_lt_mul_of_pos_left den_high (twoPow_pos (a - b - 1))
    rw [split] at less
    refine lt_of_mul_lt_mul_right ?_ (le_of_lt den_pos)
    rw [value]
    exact lt_of_lt_of_le less num_low
  · have split : twoPow (a - b + 1) * twoPow b = twoPow (a + 1) := by
      rw [← twoPow_add]
      congr 1
      omega
    have more := mul_le_mul_of_nonneg_left den_low (le_of_lt (twoPow_pos (a - b + 1)))
    rw [split] at more
    refine lt_of_mul_lt_mul_right ?_ (le_of_lt den_pos)
    rw [value]
    exact lt_of_lt_of_le num_high more

/-- A positive number has 53 significant bits at its exponent, unless that is the least one. -/
theorem exponentFor_spec {q : Rat} (positive : 0 < q) :
    q < twoPow (exponentFor q + 53) ∧ -1074 ≤ exponentFor q ∧
      (twoPow (exponentFor q + 52) ≤ q ∨ exponentFor q = -1074) := by
  obtain ⟨low, high⟩ := quotient_spec positive
  generalize up : (Nat.log2 q.num.natAbs : Int) = a at low high
  generalize down : (Nat.log2 q.den : Int) = b at low high
  have guessed : exponentFor q =
      max (if q < twoPow (a - b) then a - b - 53 else a - b - 52) (-1074) := by
    unfold exponentFor
    rw [up, down]
    dsimp only
    have whole : a - b - 52 + 52 = a - b := by omega
    have less : a - b - 52 - 1 = a - b - 53 := by omega
    rw [whole, less]
  -- the exponent of 53 bits, before the least exponent is taken into account
  obtain ⟨e, settled, below, above⟩ : ∃ e, exponentFor q = max e (-1074) ∧ q < twoPow (e + 53) ∧
      twoPow (e + 52) ≤ q := by
    by_cases less : q < twoPow (a - b)
    · refine ⟨a - b - 53, by rw [guessed, if_pos less], ?_, ?_⟩
      · rwa [show a - b - 53 + 53 = a - b by omega]
      · rw [show a - b - 53 + 52 = a - b - 1 by omega]
        exact le_of_lt low
    · refine ⟨a - b - 52, by rw [guessed, if_neg less], ?_, ?_⟩
      · rwa [show a - b - 52 + 53 = a - b + 1 by omega]
      · rw [show a - b - 52 + 52 = a - b by omega]
        exact not_lt.mp less
  refine ⟨lt_of_lt_of_le below (twoPow_le_iff.mpr (by omega)), by omega, ?_⟩
  by_cases least : -1074 ≤ e
  · rw [settled, max_eq_left least]
    exact .inl above
  · exact .inr (by omega)

theorem roundEven_near {q : Rat} (nonneg : 0 ≤ q) : |(roundEven q : Rat) - q| ≤ 1 / 2 := by
  have floor_nonneg : 0 ≤ q.floor := Rat.le_floor_iff.mpr nonneg
  have low := Rat.floor_le q
  have high := Rat.lt_floor_add_one q
  push_cast at high
  have cast : ((q.floor.toNat : Nat) : Rat) = (q.floor : Rat) := by
    have same : ((q.floor.toNat : Int) : Rat) = (q.floor : Rat) := by
      rw [Int.toNat_of_nonneg floor_nonneg]
    exact same
  unfold roundEven
  dsimp only
  rw [abs_le]
  split
  · rw [cast]
    constructor <;> linarith
  · split
    · push_cast
      rw [cast]
      constructor <;> linarith
    · split
      · rw [cast]
        constructor <;> linarith
      · push_cast
        rw [cast]
        constructor <;> linarith

/-- The only whole number less than half away is the nearest one. -/
theorem roundEven_eq {q : Rat} {n : Nat} (nonneg : 0 ≤ q) (near : |q - n| < 1 / 2) :
    roundEven q = n := by
  have other := roundEven_near nonneg
  rw [abs_lt] at near
  rw [abs_le] at other
  have below : (roundEven q : Rat) < ((n + 1 : Nat) : Rat) := by
    push_cast
    linarith
  have above : (n : Rat) < ((roundEven q + 1 : Nat) : Rat) := by
    push_cast
    linarith
  have below := Nat.cast_lt.mp below
  have above := Nat.cast_lt.mp above
  omega

theorem roundEven_natCast (n : Nat) : roundEven (n : Rat) = n :=
  roundEven_eq (Nat.cast_nonneg n) (by rw [sub_self, abs_zero]; exact one_half_pos)

theorem roundEven_mono {p q : Rat} (nonneg : 0 ≤ p) (less : p ≤ q) : roundEven p ≤ roundEven q := by
  by_contra swapped
  have apart : ((roundEven q + 1 : Nat) : Rat) ≤ roundEven p := Nat.cast_le.mpr (by omega)
  push_cast at apart
  have p_near := (abs_le.mp (roundEven_near nonneg)).2
  have q_near := (abs_le.mp (roundEven_near (le_trans nonneg less))).1
  have same : p = q := le_antisymm less (by linarith)
  exact swapped (same ▸ Nat.le_refl _)

/-- The multiple of the spacing at a number, not a negative one, that is nearest to it. -/
def settle (q : Rat) : Rat :=
  roundEven (q / twoPow (exponentFor q)) * twoPow (exponentFor q)

theorem settle_zero : settle 0 = 0 := by
  rw [settle, zero_div]
  have nothing : roundEven 0 = 0 := roundEven_natCast 0
  rw [nothing, Nat.cast_zero, zero_mul]

section Positive
variable {q : Rat} (positive : 0 < q)
include positive

theorem scaled_lt : q / twoPow (exponentFor q) < ((Nat.pow 2 53 : Nat) : Rat) := by
  have below := (exponentFor_spec positive).1
  rw [Int.add_comm, twoPow_add] at below
  rw [div_lt_iff₀ (twoPow_pos _)]
  exact below

theorem scaled_nonneg : 0 ≤ q / twoPow (exponentFor q) :=
  div_nonneg (le_of_lt positive) (le_of_lt (twoPow_pos _))

theorem roundEven_scaled_le : roundEven (q / twoPow (exponentFor q)) ≤ Nat.pow 2 53 := by
  have most := roundEven_mono (scaled_nonneg positive) (le_of_lt (scaled_lt positive))
  rwa [roundEven_natCast] at most

theorem le_roundEven_scaled (above : -1074 < exponentFor q) :
    Nat.pow 2 52 ≤ roundEven (q / twoPow (exponentFor q)) := by
  have bits : ((Nat.pow 2 52 : Nat) : Rat) ≤ q / twoPow (exponentFor q) := by
    rcases (exponentFor_spec positive).2.2 with full | least
    · rw [Int.add_comm, twoPow_add] at full
      rw [le_div_iff₀ (twoPow_pos _)]
      exact full
    · omega
  have more := roundEven_mono (Nat.cast_nonneg _) bits
  rwa [roundEven_natCast] at more

theorem settle_le : settle q ≤ twoPow (exponentFor q + 53) := by
  rw [Int.add_comm, twoPow_add, settle]
  exact mul_le_mul_of_nonneg_right (Nat.cast_le.mpr (roundEven_scaled_le positive))
    (le_of_lt (twoPow_pos _))

theorem le_settle (above : -1074 < exponentFor q) : twoPow (exponentFor q + 52) ≤ settle q := by
  rw [Int.add_comm, twoPow_add, settle]
  exact mul_le_mul_of_nonneg_right (Nat.cast_le.mpr (le_roundEven_scaled positive above))
    (le_of_lt (twoPow_pos _))

theorem settle_near : |settle q - q| ≤ twoPow (exponentFor q - 1) := by
  have unit := twoPow_pos (exponentFor q)
  have scaled : settle q - q =
      (roundEven (q / twoPow (exponentFor q)) - q / twoPow (exponentFor q)) * twoPow (exponentFor q) := by
    rw [settle, sub_mul, div_mul_cancel₀ q (ne_of_gt unit)]
  rw [scaled, abs_mul, abs_of_pos unit, twoPow_pred]
  exact mul_le_mul_of_nonneg_right (roundEven_near (scaled_nonneg positive)) (le_of_lt unit)

theorem settle_eq {x : Rat} (multiple : ∃ k : Nat, x = k * twoPow (exponentFor q))
    (near : |q - x| < twoPow (exponentFor q - 1)) : settle q = x := by
  obtain ⟨k, rfl⟩ := multiple
  have unit := twoPow_pos (exponentFor q)
  have scaled : q / twoPow (exponentFor q) - k =
      (q - k * twoPow (exponentFor q)) / twoPow (exponentFor q) := by
    rw [sub_div, mul_div_cancel_right₀ _ (ne_of_gt unit)]
  have close : |q / twoPow (exponentFor q) - k| < 1 / 2 := by
    rw [scaled, abs_div, abs_of_pos unit, div_lt_iff₀ unit, ← twoPow_pred]
    exact near
  rw [settle, roundEven_eq (scaled_nonneg positive) close]

end Positive

theorem settle_nonneg (q : Rat) : 0 ≤ settle q :=
  mul_nonneg (Nat.cast_nonneg _) (le_of_lt (twoPow_pos _))

theorem exponentFor_mono {p q : Rat} (positive : 0 < p) (less : p ≤ q) :
    exponentFor p ≤ exponentFor q := by
  have p_spec := exponentFor_spec positive
  have q_spec := exponentFor_spec (lt_of_lt_of_le positive less)
  rcases p_spec.2.2 with full | least
  · have between := twoPow_lt_iff.mp (lt_of_le_of_lt (le_trans full less) q_spec.1)
    omega
  · omega

theorem settle_mono {p q : Rat} (nonneg : 0 ≤ p) (less : p ≤ q) : settle p ≤ settle q := by
  rcases nonneg.eq_or_lt with rfl | positive
  · rw [settle_zero]
    exact settle_nonneg q
  · have more := lt_of_lt_of_le positive less
    rcases (exponentFor_mono positive less).eq_or_lt with same | higher
    · rw [settle, settle, same]
      refine mul_le_mul_of_nonneg_right (Nat.cast_le.mpr ?_) (le_of_lt (twoPow_pos _))
      refine roundEven_mono (div_nonneg nonneg (le_of_lt (twoPow_pos _))) ?_
      exact div_le_div_of_nonneg_right less (le_of_lt (twoPow_pos _))
    · have least := (exponentFor_spec positive).2.1
      calc settle p ≤ twoPow (exponentFor p + 53) := settle_le positive
        _ ≤ twoPow (exponentFor q + 52) := twoPow_le_iff.mpr (by omega)
        _ ≤ settle q := le_settle more (by omega)

/-- The number that a rational is rounded to, as if there were no largest one. -/
def nearest (q : Rat) : Rat :=
  if q < 0 then -settle (-q) else settle q

theorem settle_of_carry {q : Rat} (carry : roundEven (q / twoPow (exponentFor q)) = Nat.pow 2 53) :
    settle q = (Nat.pow 2 52 : Nat) * twoPow (exponentFor q + 1) ∧
      settle q = twoPow (exponentFor q + 53) := by
  constructor
  · rw [settle, carry, Int.add_comm, twoPow_add, ← mul_assoc]
    congr 1
    norm_num [twoPow]
  · rw [settle, carry, Int.add_comm, twoPow_add]
    rfl

theorem settle_lt {q : Rat} (positive : 0 < q)
    (uncarried : roundEven (q / twoPow (exponentFor q)) ≠ Nat.pow 2 53) :
    settle q < twoPow (exponentFor q + 53) := by
  have short : roundEven (q / twoPow (exponentFor q)) < Nat.pow 2 53 :=
    lt_of_le_of_ne (roundEven_scaled_le positive) uncarried
  rw [Int.add_comm, twoPow_add, settle]
  exact mul_lt_mul_of_pos_right (Nat.cast_lt.mpr short) (twoPow_pos _)

/-- Rounding gives the nearest number, or none when that is too large. -/
theorem toRat?_round (negative : Bool) {q : Rat} (nonneg : 0 ≤ q) :
    (round negative q).toRat? =
      if settle q < twoPow 1024 then some (if negative then -settle q else settle q) else none := by
  rcases nonneg.eq_or_lt with rfl | positive
  · rw [settle_zero, if_pos (twoPow_pos _), round, if_pos le_rfl, toRat?, Nat.cast_zero, zero_mul]
  · unfold round
    rw [if_neg (not_le.mpr positive)]
    dsimp only
    by_cases carry : roundEven (q / twoPow (exponentFor q)) = Nat.pow 2 53
    · obtain ⟨value, power⟩ := settle_of_carry carry
      rw [if_pos (beq_iff_eq.mpr carry)]
      dsimp only
      by_cases large : 971 < exponentFor q + 1
      · have high : twoPow 1024 ≤ twoPow (exponentFor q + 53) := twoPow_le_iff.mpr (by omega)
        rw [if_pos large, if_neg (not_lt.mpr (power ▸ high))]
        rfl
      · have low : twoPow (exponentFor q + 53) < twoPow 1024 := twoPow_lt_iff.mpr (by omega)
        rw [if_neg large, if_pos (power ▸ low), toRat?, value]
    · have uncarried : ¬ (roundEven (q / twoPow (exponentFor q)) == Nat.pow 2 53) = true :=
        fun same => carry (beq_iff_eq.mp same)
      rw [if_neg uncarried]
      dsimp only
      by_cases large : 971 < exponentFor q
      · have high : twoPow 1024 ≤ twoPow (exponentFor q + 52) := twoPow_le_iff.mpr (by omega)
        rw [if_pos large, if_neg (not_lt.mpr (le_trans high (le_settle positive (by omega))))]
        rfl
      · have low : twoPow (exponentFor q + 53) ≤ twoPow 1024 := twoPow_le_iff.mpr (by omega)
        rw [if_neg large, if_pos (lt_of_lt_of_le (settle_lt positive carry) low), toRat?, settle]

theorem nearest_of_nonneg {q : Rat} (nonneg : 0 ≤ q) : nearest q = settle q :=
  if_neg (not_lt.mpr nonneg)

theorem nearest_neg (q : Rat) : nearest (-q) = -nearest q := by
  unfold nearest
  rcases lt_trichotomy q 0 with negative | rfl | positive
  · rw [if_neg (by linarith), if_pos negative, neg_neg]
  · simp only [neg_zero, lt_irrefl, if_false, settle_zero]
  · rw [if_pos (by linarith), if_neg (by linarith), neg_neg]

theorem nearest_nonneg {q : Rat} (nonneg : 0 ≤ q) : 0 ≤ nearest q := by
  rw [nearest_of_nonneg nonneg]
  exact settle_nonneg q

theorem nearest_mono {p q : Rat} (less : p ≤ q) : nearest p ≤ nearest q := by
  by_cases p_neg : p < 0
  · by_cases q_neg : q < 0
    · have flipped := settle_mono (show 0 ≤ -q by linarith) (neg_le_neg less)
      rw [nearest, nearest, if_pos p_neg, if_pos q_neg]
      exact neg_le_neg flipped
    · have below := nearest_nonneg (show 0 ≤ -p by linarith)
      rw [nearest_neg] at below
      have above := nearest_nonneg (not_lt.mp q_neg)
      linarith
  · have p_nonneg := not_lt.mp p_neg
    rw [nearest_of_nonneg p_nonneg, nearest_of_nonneg (le_trans p_nonneg less)]
    exact settle_mono p_nonneg less

/-- A power of two absorbs what is added to it, up to half of its spacing. -/
theorem nearest_twoPow_add {k : Int} (normal : -1022 ≤ k) {t : Rat} (nonneg : 0 ≤ t)
    (small : t < twoPow (k - 53)) : nearest (twoPow k + t) = twoPow k := by
  have power := twoPow_pos k
  have positive : 0 < twoPow k + t := by linarith
  have tiny : twoPow (k - 53) < twoPow k := twoPow_lt_iff.mpr (by omega)
  have doubled := twoPow_succ k
  have spec := exponentFor_spec positive
  have low : k < exponentFor (twoPow k + t) + 53 := twoPow_lt_iff.mp (by linarith)
  have high : exponentFor (twoPow k + t) = k - 52 := by
    rcases spec.2.2 with full | least
    · have between : exponentFor (twoPow k + t) + 52 < k + 1 := twoPow_lt_iff.mp (by linarith)
      omega
    · omega
  rw [nearest_of_nonneg (le_of_lt positive)]
  refine settle_eq positive ⟨Nat.pow 2 52, ?_⟩ ?_
  · rw [high, ← twoPow_natCast, ← twoPow_add]
    congr 1
    omega
  · rw [high, add_sub_cancel_left, abs_of_nonneg nonneg]
    rwa [show k - 52 - 1 = k - 53 by omega]

theorem nearest_twoPow {k : Int} (normal : -1022 ≤ k) : nearest (twoPow k) = twoPow k := by
  have fixed := nearest_twoPow_add normal le_rfl (twoPow_pos (k - 53))
  rwa [add_zero] at fixed

theorem abs_nearest (q : Rat) : |nearest q| = nearest |q| := by
  rcases le_total 0 q with nonneg | nonpos
  · rw [abs_of_nonneg (nearest_nonneg nonneg), abs_of_nonneg nonneg]
  · have flipped := nearest_nonneg (neg_nonneg.mpr nonpos)
    rw [nearest_neg] at flipped
    rw [abs_of_nonpos (neg_nonneg.mp flipped), abs_of_nonpos nonpos, nearest_neg]

/-- Rounding does not lead past a power of two. -/
theorem abs_nearest_le {k : Int} (normal : -1022 ≤ k) {q : Rat} (within : |q| ≤ twoPow k) :
    |nearest q| ≤ twoPow k := by
  rw [abs_nearest, ← nearest_twoPow normal]
  exact nearest_mono within

theorem nearest_error {k : Int} (normal : -1022 ≤ k) {q : Rat} (within : |q| ≤ twoPow k) :
    |nearest q - q| ≤ twoPow (k - 53) := by
  have settled {q : Rat} (nonneg : 0 ≤ q) (within : q ≤ twoPow k) :
      |settle q - q| ≤ twoPow (k - 53) := by
    rcases nonneg.eq_or_lt with rfl | positive
    · rw [settle_zero, sub_zero, abs_zero]
      exact le_of_lt (twoPow_pos _)
    · refine le_trans (settle_near positive) (twoPow_le_iff.mpr ?_)
      rcases (exponentFor_spec positive).2.2 with full | least
      · have below := twoPow_le_iff.mp (le_trans full within)
        omega
      · omega
  rcases le_total 0 q with nonneg | nonpos
  · rw [abs_of_nonneg nonneg] at within
    rw [nearest_of_nonneg nonneg]
    exact settled nonneg within
  · rw [abs_of_nonpos nonpos] at within
    have flipped := settled (neg_nonneg.mpr nonpos) within
    rw [← nearest_of_nonneg (neg_nonneg.mpr nonpos), nearest_neg] at flipped
    rwa [← abs_neg, neg_sub, sub_neg_eq_add, add_comm, ← sub_eq_add_neg] at flipped

/-- What has been rounded is not rounded again. -/
theorem nearest_nearest (q : Rat) : nearest (nearest q) = nearest q := by
  have settled {q : Rat} (nonneg : 0 ≤ q) : nearest (settle q) = settle q := by
    rcases nonneg.eq_or_lt with rfl | positive
    · rw [settle_zero, nearest_of_nonneg le_rfl, settle_zero]
    · by_cases carry : roundEven (q / twoPow (exponentFor q)) = Nat.pow 2 53
      · have least := (exponentFor_spec positive).2.1
        rw [(settle_of_carry carry).2]
        exact nearest_twoPow (by omega)
      · have less := settle_lt positive carry
        rcases (settle_nonneg q).eq_or_lt with zero | some
        · rw [← zero, nearest_of_nonneg le_rfl, settle_zero]
        · have least := (exponentFor_spec positive).2.1
          have finer : exponentFor (settle q) ≤ exponentFor q := by
            rcases (exponentFor_spec some).2.2 with full | lowest
            · have := twoPow_lt_iff.mp (full.trans_lt less)
              omega
            · omega
          obtain ⟨n, apart⟩ := Int.le.dest finer
          rw [nearest_of_nonneg (settle_nonneg q)]
          refine settle_eq some ⟨roundEven (q / twoPow (exponentFor q)) * Nat.pow 2 n, ?_⟩ ?_
          · rw [Nat.cast_mul, ← twoPow_natCast, mul_assoc, ← twoPow_add, Int.add_comm, apart, settle]
          · rw [sub_self, abs_zero]
            exact twoPow_pos _
  rcases le_total 0 q with nonneg | nonpos
  · rw [nearest_of_nonneg nonneg]
    exact settled nonneg
  · have flipped := settled (neg_nonneg.mpr nonpos)
    rw [← nearest_of_nonneg (neg_nonneg.mpr nonpos), nearest_neg, nearest_neg] at flipped
    exact neg_inj.mp flipped

section Absorbing
variable {q t : Rat} {k : Int} (normal : -1000 ≤ k) (large : twoPow k ≤ q) (small : |t| ≤ twoPow (k - 60))
include normal large small

theorem small_beside : 0 < q ∧ -1053 < exponentFor q ∧ |t| ≤ twoPow (exponentFor q - 8) := by
  have positive : 0 < q := lt_of_lt_of_le (twoPow_pos k) large
  have low : k < exponentFor q + 53 :=
    twoPow_lt_iff.mp (lt_of_le_of_lt large (exponentFor_spec positive).1)
  exact ⟨positive, by omega, le_trans small (twoPow_le_iff.mpr (by omega))⟩

theorem exponentFor_sum : 0 < settle q + t ∧ exponentFor q - 1 ≤ exponentFor (settle q + t) ∧
    exponentFor (settle q + t) ≤ exponentFor q + 1 ∧
    twoPow (exponentFor (settle q + t) + 52) ≤ settle q + t := by
  obtain ⟨positive, above, tiny⟩ := small_beside normal large small
  obtain ⟨t_low, t_high⟩ := abs_le.mp tiny
  have most := settle_le positive
  have least := le_settle positive (by omega)
  generalize exponentFor q = e at *
  have up : twoPow (e + 53) + twoPow (e - 8) < twoPow (e + 54) := by
    have next := twoPow_succ (e + 53)
    rw [show e + 53 + 1 = e + 54 by omega] at next
    have less : twoPow (e - 8) < twoPow (e + 53) := twoPow_lt_iff.mpr (by omega)
    linarith
  have down : twoPow (e + 51) < twoPow (e + 52) - twoPow (e - 8) := by
    have next := twoPow_succ (e + 51)
    rw [show e + 51 + 1 = e + 52 by omega] at next
    have less : twoPow (e - 8) < twoPow (e + 51) := twoPow_lt_iff.mpr (by omega)
    linarith
  have sum_pos : 0 < settle q + t := by
    have power := twoPow_pos (e + 51)
    linarith
  have spec := exponentFor_spec sum_pos
  have low : e + 51 < exponentFor (settle q + t) + 53 := twoPow_lt_iff.mp (by linarith)
  have full : twoPow (exponentFor (settle q + t) + 52) ≤ settle q + t := by
    rcases spec.2.2 with full | last
    · exact full
    · omega
  have high : exponentFor (settle q + t) + 52 < e + 54 := twoPow_lt_iff.mp (by linarith)
  exact ⟨sum_pos, by omega, by omega, full⟩

/-- A longer sum leaves room for the largest significand only. -/
theorem roundEven_of_longer_sum (longer : exponentFor (settle q + t) = exponentFor q + 1) :
    roundEven (q / twoPow (exponentFor q)) = Nat.pow 2 53 := by
  obtain ⟨positive, -, tiny⟩ := small_beside normal large small
  obtain ⟨-, -, -, full⟩ := exponentFor_sum normal large small
  have high := (abs_le.mp tiny).2
  have bits := roundEven_scaled_le positive
  have value : settle q = roundEven (q / twoPow (exponentFor q)) * twoPow (exponentFor q) := rfl
  rw [longer, show exponentFor q + 1 + 52 = exponentFor q + 53 by omega] at full
  generalize exponentFor q = e at *
  generalize roundEven (q / twoPow e) = m at *
  have room : ((Nat.pow 2 53 : Nat) : Rat) * twoPow e < (m + 1 : Nat) * twoPow e := by
    have power : twoPow (e + 53) = (Nat.pow 2 53 : Nat) * twoPow e := by
      rw [Int.add_comm, twoPow_add]
      rfl
    have unit : twoPow (e - 8) < twoPow e := twoPow_lt_iff.mpr (by omega)
    rw [← power]
    push_cast
    rw [add_mul, one_mul, ← value]
    linarith
  have between := Nat.cast_lt.mp (lt_of_mul_lt_mul_right room (le_of_lt (twoPow_pos e)))
  omega

/-- What comes of rounding absorbs what is small against its spacing. -/
theorem settle_absorbs : settle (settle q + t) = settle q := by
  obtain ⟨-, -, tiny⟩ := small_beside normal large small
  obtain ⟨sum_pos, low, high, -⟩ := exponentFor_sum normal large small
  have near : |settle q + t - settle q| < twoPow (exponentFor (settle q + t) - 1) := by
    rw [add_sub_cancel_left]
    exact lt_of_le_of_lt tiny (twoPow_lt_iff.mpr (by omega))
  refine settle_eq sum_pos ?_ near
  obtain shorter | same | longer : exponentFor (settle q + t) = exponentFor q - 1 ∨
      exponentFor (settle q + t) = exponentFor q ∨
      exponentFor (settle q + t) = exponentFor q + 1 := by omega
  · refine ⟨2 * roundEven (q / twoPow (exponentFor q)), ?_⟩
    rw [shorter, twoPow_pred, settle]
    push_cast
    ring
  · exact ⟨_, by rw [same, settle]⟩
  · have carry := roundEven_of_longer_sum normal large small longer
    exact ⟨Nat.pow 2 52, by rw [longer, (settle_of_carry carry).1]⟩

end Absorbing

theorem nearest_absorbs {q t : Rat} {k : Int} (normal : -1000 ≤ k) (large : twoPow k ≤ |q|)
    (small : |t| ≤ twoPow (k - 60)) : nearest (nearest q + t) = nearest q := by
  have settled {q t : Rat} (large : twoPow k ≤ q) (small : |t| ≤ twoPow (k - 60)) :
      nearest (nearest q + t) = nearest q := by
    have positive := lt_of_lt_of_le (twoPow_pos k) large
    have least : twoPow k ≤ nearest q := by
      rw [← nearest_twoPow (show -1022 ≤ k by omega)]
      exact nearest_mono large
    have less : twoPow (k - 60) < twoPow k := twoPow_lt_iff.mpr (by omega)
    have sum_pos : 0 ≤ nearest q + t := by
      have low := (abs_le.mp small).1
      linarith
    rw [nearest_of_nonneg sum_pos, nearest_of_nonneg (le_of_lt positive)]
    exact settle_absorbs normal large small
  rcases le_total 0 q with nonneg | nonpos
  · rw [abs_of_nonneg nonneg] at large
    exact settled large small
  · rw [abs_of_nonpos nonpos] at large
    have flipped := settled large ((abs_neg t).symm ▸ small)
    rw [nearest_neg, ← neg_add, nearest_neg] at flipped
    exact neg_inj.mp flipped

theorem exists_int_of_large {q : Rat} (large : twoPow 60 ≤ q) : ∃ n : Int, settle q = n := by
  have positive : 0 < q := lt_of_lt_of_le (twoPow_pos _) large
  have low : 60 < exponentFor q + 53 :=
    twoPow_lt_iff.mp (lt_of_le_of_lt large (exponentFor_spec positive).1)
  obtain ⟨e, same⟩ : ∃ e : Nat, exponentFor q = e := ⟨(exponentFor q).toNat, by omega⟩
  refine ⟨(roundEven (q / twoPow (exponentFor q)) * Nat.pow 2 e : Nat), ?_⟩
  rw [settle, same, twoPow_natCast]
  push_cast
  rfl

theorem double_keep (q : Rat) :
    Precision.double.keep q = if |nearest q| < twoPow 1024 then some (nearest q) else none := by
  have given : Precision.double.keep q = (ofRat q).toRat? := rfl
  rw [given, ofRat, nearest]
  by_cases negative : q < 0
  · have flipped : 0 ≤ -q := by linarith
    rw [if_pos negative, if_pos negative, toRat?_round true flipped, abs_neg,
      abs_of_nonneg (settle_nonneg _)]
    rfl
  · rw [if_neg negative, if_neg negative, toRat?_round false (not_lt.mp negative),
      abs_of_nonneg (settle_nonneg _)]
    rfl

theorem double_near {q : Rat} (within : |nearest q| < twoPow 1024) :
    Precision.double.near q = nearest q := by
  rw [Precision.near, double_keep, if_pos within, Option.getD_some]

end PageHarvest.Binary64

import Mathlib.Algebra.Order.Field.Power
import Mathlib.Data.Int.Log
import Mathlib.Data.Rat.Floor
import Mathlib.Tactic.Linarith
import Mathlib.Tactic.Positivity
import SqlScribe.Number.Binary64

/-!
# Rounding to a double-precision number

What a fraction is rounded to depends on its value alone, however it is written, and the value of a
finite number is rounded to the number itself.
-/

namespace SqlScribe.Binary64

section Scaling

variable {num den : Nat}

/-- The value of a fraction after scaling. -/
theorem scaleDown_value (num den : Nat) (power : Int) :
    ((scaleDown num den power).1 : ℚ) / (scaleDown num den power).2 = num / den / 2 ^ power := by
  unfold scaleDown
  split
  · rename_i up
    obtain ⟨k, rfl⟩ := Int.eq_ofNat_of_zero_le up
    push_cast [Int.toNat_natCast, zpow_natCast, Nat.pow_eq]
    rw [div_div]
  · rename_i down
    obtain ⟨k, rfl⟩ : ∃ k : Nat, power = -k := ⟨(-power).toNat, by omega⟩
    push_cast [neg_neg, Int.toNat_natCast, zpow_neg, zpow_natCast, Nat.pow_eq]
    rw [div_inv_eq_mul, div_mul_eq_mul_div]

theorem scaleDown_den_pos (positive : 0 < den) (power : Int) :
    0 < (scaleDown num den power).2 := by
  unfold scaleDown
  split
  · exact Nat.mul_pos positive (Nat.two_pow_pos _)
  · exact positive

/-- A fraction reaches a power of two where its scaled numerator reaches the denominator. -/
theorem scaleDown_le_iff (positive : 0 < den) (power : Int) :
    (scaleDown num den power).2 ≤ (scaleDown num den power).1 ↔
      (2 : ℚ) ^ power ≤ num / den := by
  have scaled : (0 : ℚ) < (scaleDown num den power).2 :=
    Nat.cast_pos.mpr (scaleDown_den_pos positive power)
  rw [← Nat.cast_le (α := ℚ), ← one_le_div scaled, scaleDown_value, one_le_div (by positivity)]

theorem log_eq_of_bounds {r : ℚ} {k : Int} (low : (2 : ℚ) ^ k ≤ r) (high : r < 2 ^ (k + 1)) :
    Int.log 2 r = k := by
  have positive : 0 < r := lt_of_lt_of_le (by positivity) low
  have at_least := (Int.zpow_le_iff_le_log Nat.one_lt_two positive).mp (by exact_mod_cast low)
  have below := (Int.lt_zpow_iff_log_lt Nat.one_lt_two positive).mp (by exact_mod_cast high)
  omega

/-- The power of two that is looked for is the binary logarithm. -/
theorem binaryMagnitude_eq_log (something : 0 < num) (positive : 0 < den) :
    binaryMagnitude num den = Int.log 2 ((num : ℚ) / den) := by
  have top_low : (2 : ℚ) ^ (num.log2 : Int) ≤ num := by
    exact_mod_cast Nat.log2_self_le (Nat.ne_of_gt something)
  have top_high : (num : ℚ) < 2 ^ ((num.log2 : Int) + 1) := by
    exact_mod_cast Nat.lt_log2_self (n := num)
  have bottom_low : (2 : ℚ) ^ (den.log2 : Int) ≤ den := by
    exact_mod_cast Nat.log2_self_le (Nat.ne_of_gt positive)
  have bottom_high : (den : ℚ) < 2 ^ ((den.log2 : Int) + 1) := by
    exact_mod_cast Nat.lt_log2_self (n := den)
  have nonzero : (0 : ℚ) < den := Nat.cast_pos.mpr positive
  -- The quotient of the leading powers is off by one power at most.
  have at_least : (2 : ℚ) ^ ((num.log2 : Int) - den.log2 - 1) ≤ num / den := by
    rw [le_div_iff₀ nonzero]
    calc (2 : ℚ) ^ ((num.log2 : Int) - den.log2 - 1) * den
        ≤ 2 ^ ((num.log2 : Int) - den.log2 - 1) * 2 ^ ((den.log2 : Int) + 1) := by
          gcongr
      _ = 2 ^ (num.log2 : Int) := by
          rw [← zpow_add₀ two_ne_zero]
          congr 1
          omega
      _ ≤ num := top_low
  have below : (num : ℚ) / den < 2 ^ ((num.log2 : Int) - den.log2 + 1) := by
    rw [div_lt_iff₀ nonzero]
    calc (num : ℚ) < 2 ^ ((num.log2 : Int) + 1) := top_high
      _ = 2 ^ ((num.log2 : Int) - den.log2 + 1) * 2 ^ (den.log2 : Int) := by
          rw [← zpow_add₀ two_ne_zero]
          congr 1
          omega
      _ ≤ 2 ^ ((num.log2 : Int) - den.log2 + 1) * den := by gcongr
  simp only [binaryMagnitude, scaleDown_le_iff positive]
  split
  · rename_i reached
    exact (log_eq_of_bounds reached below).symm
  · rename_i missed
    refine (log_eq_of_bounds at_least ?_).symm
    rw [Int.sub_add_cancel]
    exact lt_of_not_ge missed

end Scaling

section Fractions

variable {n d n' d' : Nat}

theorem roundHalfEven_mul {k : Nat} (positive : 0 < k) (n d : Nat) :
    roundHalfEven (k * n) (k * d) = roundHalfEven n d := by
  have twice : 2 * (k * (n % d)) = k * (2 * (n % d)) := Nat.mul_left_comm 2 k _
  simp only [roundHalfEven, Nat.mul_div_mul_left _ _ positive, Nat.mul_mod_mul_left, twice,
    Nat.mul_lt_mul_left positive]

/-- What a fraction is rounded to depends on its value. -/
theorem roundHalfEven_congr (positive : 0 < d) (positive' : 0 < d') (same : n * d' = n' * d) :
    roundHalfEven n d = roundHalfEven n' d' := by
  calc roundHalfEven n d = roundHalfEven (d' * n) (d' * d) := (roundHalfEven_mul positive' n d).symm
    _ = roundHalfEven (d * n') (d * d') := by
        rw [Nat.mul_comm d' n, same, Nat.mul_comm n' d, Nat.mul_comm d' d]
    _ = roundHalfEven n' d' := roundHalfEven_mul positive n' d'

theorem roundHalfEven_exact (positive : 0 < d) (n : Nat) : roundHalfEven (n * d) d = n := by
  simp [roundHalfEven, Nat.mul_div_cancel n positive, positive]

theorem cross_of_value (positive : 0 < d) (positive' : 0 < d')
    (same : (n : ℚ) / d = n' / d') : n * d' = n' * d := by
  have nonzero : (d : ℚ) ≠ 0 := Nat.cast_ne_zero.mpr (Nat.ne_of_gt positive)
  have nonzero' : (d' : ℚ) ≠ 0 := Nat.cast_ne_zero.mpr (Nat.ne_of_gt positive')
  rw [div_eq_div_iff nonzero nonzero'] at same
  exact_mod_cast same

/-- Fractions of one value are rounded to one number. -/
theorem ofRatio_congr {negative : Bool} (positive : 0 < d) (positive' : 0 < d')
    (same : (n : ℚ) / d = n' / d') : ofRatio negative n d = ofRatio negative n' d' := by
  have cross := cross_of_value positive positive' same
  unfold ofRatio
  by_cases nothing : n = 0
  · have nothing' : n' = 0 := by
      rw [nothing, Nat.zero_mul] at cross
      exact (Nat.mul_eq_zero.mp cross.symm).resolve_right (Nat.ne_of_gt positive)
    rw [if_pos nothing, if_pos nothing']
  · have something' : n' ≠ 0 := by
      rintro rfl
      rw [Nat.zero_mul] at cross
      exact (Nat.mul_eq_zero.mp cross).elim nothing (Nat.ne_of_gt positive')
    have magnitude : binaryMagnitude n d = binaryMagnitude n' d' := by
      rw [binaryMagnitude_eq_log (Nat.pos_of_ne_zero nothing) positive,
        binaryMagnitude_eq_log (Nat.pos_of_ne_zero something') positive', same]
    have rounded (power : Int) :
        roundHalfEven (scaleDown n d power).1 (scaleDown n d power).2 =
          roundHalfEven (scaleDown n' d' power).1 (scaleDown n' d' power).2 := by
      have left := @scaleDown_den_pos n _ positive power
      have right := @scaleDown_den_pos n' _ positive' power
      refine roundHalfEven_congr left right (cross_of_value left right ?_)
      rw [scaleDown_value, scaleDown_value, same]
    rw [if_neg nothing, if_neg something', magnitude]
    simp only [rounded]

end Fractions

section Exact

variable {x : Binary64}

theorem ratio_den_pos (x : Binary64) : 0 < x.ratio.2 := by
  unfold ratio
  split
  · exact Nat.one_pos
  · exact Nat.two_pow_pos _

/-- The magnitude is the significand times the power of two that goes with it. -/
theorem ratio_value (x : Binary64) :
    (x.ratio.1 : ℚ) / x.ratio.2 = x.significand * 2 ^ x.exponent := by
  unfold ratio
  split
  · rename_i up
    obtain ⟨k, whole⟩ := Int.eq_ofNat_of_zero_le up
    rw [whole]
    push_cast [Int.toNat_natCast, zpow_natCast, Nat.pow_eq]
    rw [div_one]
  · rename_i down
    obtain ⟨k, whole⟩ : ∃ k : Nat, x.exponent = -k := ⟨(-x.exponent).toNat, by omega⟩
    rw [whole]
    push_cast [neg_neg, Int.toNat_natCast, zpow_neg, zpow_natCast, Nat.pow_eq]
    rw [div_eq_mul_inv]

/-- A number is either small, with the least exponent, or has all its 53 bits. -/
theorem significand_cases (x : Binary64) :
    (x.exponent = -1074 ∧ x.significand < fractionUnit ∧ x.magnitudeBits = x.significand) ∨
      (-1074 ≤ x.exponent ∧ fractionUnit ≤ x.significand ∧ x.significand < 2 * fractionUnit ∧
        x.magnitudeBits = (x.exponent + 1074).toNat * fractionUnit + x.significand) := by
  have fraction := Nat.mod_lt x.magnitudeBits (y := fractionUnit) (by decide)
  have parts := Nat.div_add_mod x.magnitudeBits fractionUnit
  unfold exponent significand
  generalize x.magnitudeBits / fractionUnit = field at parts ⊢
  generalize x.magnitudeBits % fractionUnit = low at fraction parts ⊢
  cases field with
  | zero => exact .inl ⟨rfl, fraction, by simpa using parts.symm⟩
  | succ field =>
    have upper : ((field + 1 : Nat) - 1075 + 1074 : Int).toNat = field := by omega
    refine .inr ⟨?_, Nat.le_add_right _ _, ?_, ?_⟩
    · simp only [Nat.succ_ne_zero, if_false]
      omega
    · simp only [Nat.succ_ne_zero, if_false]
      omega
    · simp only [Nat.succ_ne_zero, if_false, upper]
      rw [← parts, Nat.mul_comm, Nat.succ_mul, Nat.add_assoc]

/-- A number is rounded at the power of two that goes with its significand. -/
theorem power_of_ratio (something : 0 < x.significand) :
    max (Int.log 2 ((x.significand : ℚ) * 2 ^ x.exponent) - 52) (-1074) = x.exponent := by
  have positive : (0 : ℚ) < x.significand * 2 ^ x.exponent := by positivity
  obtain ⟨least, below, -⟩ | ⟨above, low, high, -⟩ := x.significand_cases
  · have small : (x.significand : ℚ) * 2 ^ x.exponent < 2 ^ (-1022 : Int) := by
      calc (x.significand : ℚ) * 2 ^ x.exponent < 2 ^ (52 : Int) * 2 ^ x.exponent := by
            gcongr
            exact_mod_cast below
        _ = 2 ^ (-1022 : Int) := by
            rw [least, ← zpow_add₀ two_ne_zero]
            rfl
    have magnitude := (Int.lt_zpow_iff_log_lt Nat.one_lt_two positive).mp (by exact_mod_cast small)
    omega
  · have magnitude : Int.log 2 ((x.significand : ℚ) * 2 ^ x.exponent) = x.exponent + 52 := by
      apply log_eq_of_bounds
      · rw [add_comm, zpow_add₀ two_ne_zero]
        gcongr
        exact_mod_cast low
      · have regroup : x.exponent + 52 + 1 = 53 + x.exponent := by omega
        rw [regroup, zpow_add₀ two_ne_zero]
        gcongr
        exact_mod_cast high
    omega

theorem significand_pos_iff (x : Binary64) : 0 < x.significand ↔ 0 < x.ratio.1 := by
  have positive : (0 : ℚ) < x.ratio.2 := Nat.cast_pos.mpr x.ratio_den_pos
  have value := x.ratio_value
  rw [div_eq_iff (ne_of_gt positive)] at value
  rw [← Nat.cast_pos (α := ℚ), ← Nat.cast_pos (α := ℚ), value]
  constructor
  · intro something
    positivity
  · intro product
    by_contra nothing
    have zero : x.significand = 0 := by simpa using nothing
    simp [zero] at product

/-- The value of a finite number is rounded to the number itself. -/
theorem ofRatio_ratio (finite : x.isFinite = true) (negative : Bool) :
    ofRatio negative x.ratio.1 x.ratio.2 = ofMagnitudeBits negative x.magnitudeBits := by
  have positive := x.ratio_den_pos
  have value := x.ratio_value
  have bits : (x.exponent + 1074).toNat * fractionUnit + x.significand = x.magnitudeBits := by
    obtain ⟨least, -, same⟩ | ⟨-, -, -, same⟩ := x.significand_cases
    · simp [least, same]
    · exact same.symm
  by_cases something : 0 < x.significand
  · have top := x.significand_pos_iff.mp something
    have scaled := @scaleDown_den_pos x.ratio.1 _ positive x.exponent
    have whole : (scaleDown x.ratio.1 x.ratio.2 x.exponent).1 =
        x.significand * (scaleDown x.ratio.1 x.ratio.2 x.exponent).2 := by
      have exact_value := scaleDown_value x.ratio.1 x.ratio.2 x.exponent
      rw [value, mul_div_assoc, div_self (by positivity), mul_one, div_eq_iff (by positivity)]
        at exact_value
      exact_mod_cast exact_value
    have power : max (binaryMagnitude x.ratio.1 x.ratio.2 - 52) (-1074) = x.exponent := by
      rw [binaryMagnitude_eq_log top positive, value, power_of_ratio something]
    have limit : min x.magnitudeBits infinityBits = x.magnitudeBits :=
      Nat.min_eq_left (Nat.le_of_lt (of_decide_eq_true finite))
    simp only [ofRatio, if_neg (Nat.ne_of_gt top), power, whole, roundHalfEven_exact scaled, bits,
      limit]
  · have nothing : x.ratio.1 = 0 := by
      rw [significand_pos_iff] at something
      omega
    have zero : x.magnitudeBits = 0 := by
      obtain ⟨-, -, same⟩ | ⟨-, low, -⟩ := x.significand_cases
      · omega
      · have unit : 0 < fractionUnit := by decide
        omega
    rw [ofRatio, if_pos nothing, zero]

end Exact

end SqlScribe.Binary64

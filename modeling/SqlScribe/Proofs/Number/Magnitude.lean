import Mathlib.Order.Compare
import SqlScribe.Proofs.Number.Shortest

/-!
# The order of double-precision numbers

The number that the bits of a finite number stand for. The magnitude bits grow with the magnitude,
so finite numbers are compared by the numbers they stand for.
-/

namespace SqlScribe.Binary64

variable {x y : Binary64}

/-- The magnitude of a finite number. -/
def size (x : Binary64) : ℚ := x.significand * 2 ^ x.exponent

/-- The number that a finite number stands for. -/
def value (x : Binary64) : ℚ := if x.isNegative then -x.size else x.size

theorem size_nonneg (x : Binary64) : 0 ≤ x.size := by
  unfold size
  positivity

theorem least_exponent (x : Binary64) : -1074 ≤ x.exponent := by
  obtain ⟨least, -⟩ | ⟨above, -⟩ := x.significand_cases
  · exact least.ge
  · exact above

theorem significand_lt (x : Binary64) : x.significand < 2 * fractionUnit := by
  obtain ⟨-, below, -⟩ | ⟨-, -, below, -⟩ := x.significand_cases
  · exact Nat.lt_of_lt_of_le below (by decide)
  · exact below

theorem magnitudeBits_eq (x : Binary64) :
    x.magnitudeBits = (x.exponent + 1074).toNat * fractionUnit + x.significand := by
  obtain ⟨least, -, same⟩ | ⟨-, -, -, same⟩ := x.significand_cases
  · simp [least, same]
  · exact same

/-- Above the least exponent the significand has all its bits. -/
theorem fractionUnit_le_significand (above : -1074 < x.exponent) :
    fractionUnit ≤ x.significand := by
  obtain ⟨least, -⟩ | ⟨-, full, -⟩ := x.significand_cases
  · omega
  · exact full

theorem size_lt_of_exponent_lt (less : x.exponent < y.exponent) : x.size < y.size := by
  have unit : ((2 * fractionUnit : Nat) : ℚ) * 2 ^ x.exponent =
      (fractionUnit : ℚ) * 2 ^ (x.exponent + 1) := by
    rw [zpow_add₀ two_ne_zero]
    push_cast
    ring
  have steps : (2 : ℚ) ^ (x.exponent + 1) ≤ 2 ^ y.exponent :=
    zpow_le_zpow_right₀ one_le_two (by omega)
  have full := fractionUnit_le_significand (lt_of_le_of_lt x.least_exponent less)
  calc x.size < (2 * fractionUnit : Nat) * 2 ^ x.exponent := by
        unfold size
        gcongr
        exact x.significand_lt
    _ = fractionUnit * 2 ^ (x.exponent + 1) := unit
    _ ≤ y.significand * 2 ^ y.exponent := by gcongr

/-- The magnitude bits grow with the magnitude. -/
theorem size_lt_of_bits_lt (less : x.magnitudeBits < y.magnitudeBits) : x.size < y.size := by
  have below := x.significand_lt
  have below' := y.significand_lt
  have least := x.least_exponent
  have least' := y.least_exponent
  rw [magnitudeBits_eq, magnitudeBits_eq] at less
  obtain lower | same | higher := lt_trichotomy x.exponent y.exponent
  · exact size_lt_of_exponent_lt lower
  · rw [same, Nat.add_lt_add_iff_left] at less
    unfold size
    rw [same]
    gcongr
  · have full := fractionUnit_le_significand (lt_of_le_of_lt least' higher)
    unfold fractionUnit at *
    omega

theorem size_lt_iff : x.size < y.size ↔ x.magnitudeBits < y.magnitudeBits := by
  refine ⟨fun less => ?_, size_lt_of_bits_lt⟩
  obtain lower | same | higher := lt_trichotomy x.magnitudeBits y.magnitudeBits
  · exact lower
  · have equal : x.size = y.size := by
      unfold size significand exponent
      rw [same]
    exact absurd equal less.ne
  · exact absurd (size_lt_of_bits_lt higher) less.not_gt

theorem size_pos_iff : 0 < x.size ↔ x.magnitudeBits ≠ 0 := by
  constructor
  · rintro positive nothing
    obtain ⟨-, -, same⟩ | ⟨-, full, -, same⟩ := x.significand_cases
    · rw [size, ← same, nothing] at positive
      simp at positive
    · unfold fractionUnit at *
      omega
  · intro something
    have above := significand_pos something
    unfold size
    positivity

theorem value_lt_iff : x.value < y.value ↔ x.rank < y.rank := by
  have order := @size_lt_iff x y
  have order' := @size_lt_iff y x
  have some_left := @size_pos_iff x
  have some_right := @size_pos_iff y
  have left := x.size_nonneg
  have right := y.size_nonneg
  unfold value rank
  cases x.isNegative <;> cases y.isNegative <;> simp only [Bool.false_eq_true, if_true, if_false]
  · rw [order]
    omega
  · constructor <;> intro less
    · linarith
    · omega
  · constructor <;> intro less
    · by_cases nothing : x.magnitudeBits = 0
      · have zero : ¬ 0 < x.size := fun positive => some_left.mp positive nothing
        have above : 0 < y.size := by linarith
        have := some_right.mp above
        omega
      · omega
    · by_cases nothing : x.magnitudeBits = 0
      · have above := some_right.mpr (by omega)
        linarith
      · have above := some_left.mpr nothing
        linarith
  · rw [neg_lt_neg_iff, order', neg_lt_neg_iff]
    omega

/-- Finite numbers are compared by the numbers they stand for. -/
theorem compare?_of_finite (left : x.isFinite = true) (right : y.isFinite = true) :
    x.compare? y = some (compare x.value y.value) := by
  have number {z : Binary64} (finite : z.isFinite = true) : z.isNaN = false := by
    have bits : z.magnitudeBits < infinityBits := of_decide_eq_true finite
    exact decide_eq_false (by omega)
  rw [compare?, number left, number right, Bool.or_self, if_neg Bool.false_ne_true,
    ← cmp_eq_compare, ← cmp_eq_compare]
  simp only [cmp, cmpUsing, value_lt_iff]

end SqlScribe.Binary64

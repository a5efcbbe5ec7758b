import Mathlib.Algebra.Field.Rat
import Mathlib.Algebra.Order.Ring.Rat
import Mathlib.Tactic.FieldSimp
import Mathlib.Tactic.Linarith
import Mathlib.Tactic.Positivity
import Mathlib.Tactic.Ring
import SqlScribe.Number.Decimal

/-!
# Amounts

The rational number that a decimal stands for. Two decimals are equal when their amounts are, and
exactly one decimal of each amount has the fewest places.
-/

namespace SqlScribe.Decimal

/-- The number itself, without its places. -/
def amount (d : Decimal) : ℚ := d.signedMantissa / 10 ^ d.scale

theorem ten_pow_ne_zero (n : Nat) : (10 : ℚ) ^ n ≠ 0 := pow_ne_zero n (by norm_num)

/-- Amounts can be told apart in integers. -/
theorem amount_eq_iff (a b : Decimal) :
    a.amount = b.amount ↔
      a.signedMantissa * 10 ^ b.scale = b.signedMantissa * 10 ^ a.scale := by
  unfold amount
  rw [div_eq_div_iff (ten_pow_ne_zero _) (ten_pow_ne_zero _)]
  exact_mod_cast Iff.rfl

/-- The comparison multiplies crosswise, so it never rounds. -/
theorem equals_iff (a b : Decimal) : a.equals b = true ↔ a.amount = b.amount := by
  rw [amount_eq_iff]
  simp only [equals, compare, beq_iff_eq, Std.LawfulEqCmp.compare_eq_iff_eq, Nat.pow_eq]
  exact_mod_cast Iff.rfl

/-- What zeros are dropped is made up for by the places given up. -/
theorem dropZeros_mul (mantissa places : Nat) :
    mantissa = (dropZeros mantissa places).1 * 10 ^ (places - (dropZeros mantissa places).2) := by
  induction places generalizing mantissa with
  | zero => simp [dropZeros]
  | succ places ih =>
    simp only [dropZeros]
    split
    · rename_i tenfold
      have le := dropZeros_snd_le (mantissa / 10) places
      have rest := ih (mantissa / 10)
      rw [Nat.sub_add_comm le, Nat.pow_succ, ← Nat.mul_assoc, ← rest]
      omega
    · simp

/-- No place is left to give up. -/
theorem dropZeros_reduced (mantissa places : Nat) :
    (dropZeros mantissa places).2 = 0 ∨ (dropZeros mantissa places).1 % 10 ≠ 0 := by
  induction places generalizing mantissa with
  | zero => exact .inl rfl
  | succ places ih =>
    simp only [dropZeros]
    split
    · exact ih _
    · exact .inr ‹_›

theorem amount_normalize (d : Decimal) : d.normalize.amount = d.amount := by
  unfold normalize
  split
  · rename_i nothing
    simp [amount, signedMantissa, zero, nothing]
  · have whole := dropZeros_mul d.mantissa d.scale
    have le := dropZeros_snd_le d.mantissa d.scale
    have places : (10 : ℚ) ^ d.scale = 10 ^ (dropZeros d.mantissa d.scale).2 *
        10 ^ (d.scale - (dropZeros d.mantissa d.scale).2) := by
      rw [← pow_add, Nat.add_sub_cancel' le]
    have mantissa : (d.mantissa : ℚ) = (dropZeros d.mantissa d.scale).1 *
        10 ^ (d.scale - (dropZeros d.mantissa d.scale).2) := by
      exact_mod_cast whole
    have := ten_pow_ne_zero (dropZeros d.mantissa d.scale).2
    have := ten_pow_ne_zero (d.scale - (dropZeros d.mantissa d.scale).2)
    simp only [amount, signedMantissa]
    split <;> push_cast <;> rw [places, mantissa] <;> field_simp

/-- No place can be given up. -/
def Reduced (d : Decimal) : Prop := d.scale = 0 ∨ d.mantissa % 10 ≠ 0

theorem normalize_reduced (d : Decimal) : d.normalize.Reduced := by
  unfold normalize
  split
  · exact .inl rfl
  · exact dropZeros_reduced _ _

/-- Of two mantissas of one amount, the one that cannot give up a place has no more of them. -/
theorem Reduced.scale_le_of_mul_eq {a b : Decimal} (ha : a.Reduced)
    (h : a.mantissa * 10 ^ b.scale = b.mantissa * 10 ^ a.scale) : a.scale ≤ b.scale := by
  by_contra more
  obtain ⟨n, hn⟩ : ∃ n, a.scale = b.scale + (n + 1) := ⟨a.scale - b.scale - 1, by omega⟩
  have fewer : a.mantissa = b.mantissa * 10 ^ n * 10 := by
    apply Nat.eq_of_mul_eq_mul_right (Nat.pow_pos (n := b.scale) (by decide : 0 < 10))
    rw [h, hn, pow_add, pow_succ]
    ring
  cases ha with
  | inl whole => omega
  | inr last => omega

theorem eq_of_amount_eq {a b : Decimal} (ha : a.Reduced) (hb : b.Reduced)
    (h : a.amount = b.amount) : a = b := by
  have signed := (amount_eq_iff a b).mp h
  have magnitude : a.mantissa * 10 ^ b.scale = b.mantissa * 10 ^ a.scale := by
    have := congrArg Int.natAbs signed
    simpa [Int.natAbs_mul, Int.natAbs_pow, signedMantissa, apply_ite Int.natAbs] using this
  have scale : a.scale = b.scale :=
    Nat.le_antisymm (ha.scale_le_of_mul_eq magnitude) (hb.scale_le_of_mul_eq magnitude.symm)
  have mantissa : a.mantissa = b.mantissa := by
    rw [scale] at magnitude
    exact Nat.eq_of_mul_eq_mul_right (Nat.pow_pos (by decide)) magnitude
  have sign : a.signedMantissa = b.signedMantissa := by
    rw [scale] at signed
    exact Int.eq_of_mul_eq_mul_right (by positivity) signed
  -- A zero has no sign, so the sign can be read off the number.
  have negative : a.negative = b.negative := by
    have ha := a.negative_zero
    have hb := b.negative_zero
    unfold signedMantissa at sign
    cases hna : a.negative <;> cases hnb : b.negative <;> simp_all
  cases a
  cases b
  simp_all

/-- Equal decimals are those that normalize to one. -/
theorem equals_iff_normalize_eq (a b : Decimal) :
    a.equals b = true ↔ a.normalize = b.normalize := by
  rw [equals_iff, ← amount_normalize a, ← amount_normalize b]
  constructor
  · exact eq_of_amount_eq a.normalize_reduced b.normalize_reduced
  · exact congrArg amount

end SqlScribe.Decimal

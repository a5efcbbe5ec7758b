import SqlScribe.Number.Binary64.Text
import SqlScribe.Proofs.Number.Rounding
import SqlScribe.Proofs.Text.Digits

/-!
# Decimals that read back

What a decimal is rounded to depends on its value alone, and the decimal that is written for a
finite number is rounded to that number again.
-/

namespace SqlScribe.Binary64

open SqlScribe.Text

section Sign

variable {negative : Bool} {magnitude : Nat}

theorem magnitudeBits_ofMagnitudeBits (negative : Bool) (fits : magnitude < signBit) :
    (ofMagnitudeBits negative magnitude).magnitudeBits = magnitude := by
  unfold ofMagnitudeBits magnitudeBits
  cases negative <;> simp [signBit] at fits ⊢ <;> omega

/-- A number is made up of its sign and its magnitude. -/
theorem withSign_self (x : Binary64) : withSign x.isNegative x = x := by
  obtain ⟨bits⟩ := x
  have small := bits.toNat_lt
  unfold withSign ofMagnitudeBits magnitudeBits isNegative
  congr 1
  apply UInt64.toNat_inj.mp
  by_cases set : 0x8000000000000000 ≤ bits.toNat
  · simp [signBit, set]
    omega
  · simp [signBit, set]
    omega

theorem withSign_ofMagnitudeBits (before negative : Bool) (fits : magnitude < signBit) :
    withSign negative (ofMagnitudeBits before magnitude) = ofMagnitudeBits negative magnitude := by
  rw [withSign, magnitudeBits_ofMagnitudeBits before fits]

theorem ofRatio_sign (negative : Bool) (num den : Nat) :
    ofRatio negative num den = withSign negative (ofRatio false num den) := by
  unfold ofRatio
  split
  · exact (withSign_ofMagnitudeBits _ _ (by decide)).symm
  · refine (withSign_ofMagnitudeBits _ _ ?_).symm
    exact Nat.lt_of_le_of_lt (Nat.min_le_right _ _) (by decide)

/-- The sign of a decimal is that of the number it is rounded to. -/
theorem ofDecimal_sign (negative : Bool) (mantissa : Nat) (power : Int) :
    ofDecimal negative mantissa power = withSign negative (ofDecimal false mantissa power) := by
  unfold ofDecimal
  simp only []
  split
  · exact (withSign_ofMagnitudeBits _ _ (by decide)).symm
  split
  · exact (withSign_ofMagnitudeBits _ _ (by decide)).symm
  split
  · exact ofRatio_sign _ _ _
  · exact ofRatio_sign _ _ _

end Sign

section Value

variable {negative : Bool} {mantissa mantissa' num den : Nat} {power power' : Int}

theorem lt_ten_pow_length_digits (n : Nat) : n < 10 ^ (digits n).length := by
  have some_digit := List.length_pos_of_ne_nil (digits_ne_nil n)
  exact (Nat.length_toDigits_le_iff (by decide) some_digit).mp (Nat.le_refl _)

theorem ten_pow_length_digits_le {n : Nat} (something : 0 < n) :
    10 ^ ((digits n).length - 1) ≤ n := by
  obtain one | more := Nat.eq_zero_or_pos ((digits n).length - 1)
  · rw [one]
    exact something
  · have fewer := (Nat.length_toDigits_le_iff (b := 10) (n := n) (by decide) more).not
    exact Nat.not_lt.mp (fewer.mp (by unfold digits at more ⊢; omega))

/-- The digits of a decimal, with its power, count up to the place of its first one. -/
theorem size_eq_log (something : 0 < mantissa) (power : Int) :
    ((digits mantissa).length : Int) + power = Int.log 10 ((mantissa : ℚ) * 10 ^ power) + 1 := by
  have some_digit := List.length_pos_of_ne_nil (digits_ne_nil mantissa)
  have positive : (0 : ℚ) < mantissa * 10 ^ power := by positivity
  have low : ((10 : ℕ) : ℚ) ^ (((digits mantissa).length : Int) - 1 + power) ≤
      mantissa * 10 ^ power := by
    rw [Nat.cast_ofNat, zpow_add₀ (by norm_num)]
    gcongr
    have whole : ((digits mantissa).length : Int) - 1 = ((digits mantissa).length - 1 : Nat) := by
      omega
    rw [whole, zpow_natCast]
    exact_mod_cast ten_pow_length_digits_le something
  have high : (mantissa : ℚ) * 10 ^ power <
      ((10 : ℕ) : ℚ) ^ (((digits mantissa).length : Int) + power) := by
    rw [Nat.cast_ofNat, zpow_add₀ (by norm_num)]
    gcongr
    exact_mod_cast lt_ten_pow_length_digits mantissa
  have at_least := (Int.zpow_le_iff_le_log (by decide) positive).mp low
  have below := (Int.lt_zpow_iff_log_lt (by decide) positive).mp high
  omega

/-- A decimal is rounded as any fraction of its value, unless it is far out of range. -/
theorem ofDecimal_eq_ofRatio (something : 0 < mantissa) (positive : 0 < den)
    (value : (num : ℚ) / den = mantissa * 10 ^ power) :
    ofDecimal negative mantissa power =
      if Int.log 10 ((num : ℚ) / den) < -331 then ofMagnitudeBits negative 0
      else if 309 < Int.log 10 ((num : ℚ) / den) then infinity negative
      else ofRatio negative num den := by
  have size := size_eq_log something power
  rw [← value] at size
  have nonzero : (mantissa = 0) = False := by
    rw [eq_iff_iff, iff_false]
    omega
  have small : (Int.log 10 ((num : ℚ) / den) + 1 < -330) =
      (Int.log 10 ((num : ℚ) / den) < -331) := by
    rw [eq_iff_iff]
    omega
  have large : (310 < Int.log 10 ((num : ℚ) / den) + 1) =
      (309 < Int.log 10 ((num : ℚ) / den)) := by
    rw [eq_iff_iff]
    omega
  have rounded : (if 0 ≤ power then ofRatio negative (mantissa * Nat.pow 10 power.toNat) 1
      else ofRatio negative mantissa (Nat.pow 10 (-power).toNat)) = ofRatio negative num den := by
    split
    · rename_i up
      obtain ⟨k, rfl⟩ := Int.eq_ofNat_of_zero_le up
      apply ofRatio_congr Nat.one_pos positive
      rw [value]
      simp [Nat.pow_eq]
    · rename_i down
      obtain ⟨k, rfl⟩ : ∃ k : Nat, power = -k := ⟨(-power).toNat, by omega⟩
      apply ofRatio_congr (Nat.pow_pos (by decide)) positive
      rw [value]
      simp [div_eq_mul_inv]
  simp only [ofDecimal, size, nonzero, decide_false, Bool.false_or, decide_eq_true_eq, small,
    large, rounded]

/-- Decimals of one value are rounded to one number. -/
theorem ofDecimal_congr (something : 0 < mantissa) (something' : 0 < mantissa')
    (same : (mantissa : ℚ) * 10 ^ power = mantissa' * 10 ^ power') :
    ofDecimal negative mantissa power = ofDecimal negative mantissa' power' := by
  have value : ((mantissa * 10 ^ power.toNat : Nat) : ℚ) / (10 ^ (-power).toNat : Nat) =
      mantissa * 10 ^ power := by
    obtain ⟨k, rfl | rfl⟩ := power.eq_nat_or_neg
    · simp
    · simp [div_eq_mul_inv]
  have positive : 0 < 10 ^ (-power).toNat := Nat.pow_pos (by decide)
  rw [ofDecimal_eq_ofRatio something positive value,
    ofDecimal_eq_ofRatio something' positive (value.trans same)]

end Value

section Written

variable {x : Binary64}

/-- Zero alone has no significand. -/
theorem significand_pos (something : x.magnitudeBits ≠ 0) : 0 < x.significand := by
  obtain ⟨-, -, same⟩ | ⟨-, low, -⟩ := x.significand_cases
  · omega
  · exact Nat.lt_of_lt_of_le (by decide) low

/-- The least number is above `10 ^ -331`. -/
theorem ten_pow_le_value (something : x.magnitudeBits ≠ 0) :
    ((10 : ℕ) : ℚ) ^ (-331 : Int) ≤ x.significand * 2 ^ x.exponent := by
  have least : -1074 ≤ x.exponent := by
    obtain ⟨small, -⟩ | ⟨above, -⟩ := x.significand_cases <;> omega
  have one_le : (1 : ℚ) ≤ x.significand := by exact_mod_cast significand_pos something
  have powers : (2 : ℚ) ^ (1074 : Int) ≤ ((10 : ℕ) : ℚ) ^ (331 : Int) := by
    exact_mod_cast (by decide +kernel : 2 ^ 1074 ≤ 10 ^ 331)
  calc ((10 : ℕ) : ℚ) ^ (-331 : Int) ≤ 2 ^ (-1074 : Int) := by
        rw [zpow_neg, zpow_neg]
        exact inv_anti₀ (by positivity) powers
    _ ≤ 2 ^ x.exponent := zpow_le_zpow_right₀ (by norm_num) least
    _ ≤ x.significand * 2 ^ x.exponent := le_mul_of_one_le_left (by positivity) one_le

/-- The largest number is below `10 ^ 309`. -/
theorem value_lt_ten_pow (finite : x.isFinite = true) :
    (x.significand : ℚ) * 2 ^ x.exponent < ((10 : ℕ) : ℚ) ^ (309 : Int) := by
  have bits : x.magnitudeBits < infinityBits := of_decide_eq_true finite
  have largest : x.exponent ≤ 971 ∧ x.significand < 2 ^ 53 := by
    obtain ⟨small, below, -⟩ | ⟨-, low, below, same⟩ := x.significand_cases
    · unfold fractionUnit at below
      omega
    · unfold infinityBits fractionUnit at *
      omega
  have below : (x.significand : ℚ) < 2 ^ 53 := by exact_mod_cast largest.2
  calc (x.significand : ℚ) * 2 ^ x.exponent < 2 ^ 53 * 2 ^ x.exponent := by gcongr
    _ ≤ 2 ^ 53 * 2 ^ (971 : Int) := by
        gcongr
        · norm_num
        · exact largest.1
    _ = 2 ^ 1024 := by
        rw [← zpow_natCast, ← zpow_add₀ two_ne_zero]
        rfl
    _ < ((10 : ℕ) : ℚ) ^ (309 : Int) := by
        exact_mod_cast (by decide +kernel : 2 ^ 1024 < 10 ^ 309)

/-- A decimal of the value of a finite number is rounded to that number. -/
theorem ofDecimal_of_value {mantissa : Nat} {power : Int} (finite : x.isFinite = true)
    (something : x.magnitudeBits ≠ 0)
    (value : (mantissa : ℚ) * 10 ^ power = x.significand * 2 ^ x.exponent) :
    ofDecimal false mantissa power = x.abs := by
  have positive : (0 : ℚ) < x.significand * 2 ^ x.exponent := by
    have above := significand_pos something
    positivity
  have some_digit : 0 < mantissa := by
    rw [← value] at positive
    by_contra nothing
    have zero : mantissa = 0 := by omega
    simp [zero] at positive
  have at_least := (Int.zpow_le_iff_le_log (by decide) positive).mp (ten_pow_le_value something)
  have below := (Int.lt_zpow_iff_log_lt (by decide) positive).mp (value_lt_ten_pow finite)
  rw [ofDecimal_eq_ofRatio some_digit x.ratio_den_pos (x.ratio_value.trans value.symm),
    x.ratio_value, if_neg (by omega), if_neg (by omega), ofRatio_ratio finite]
  rfl

/-- All digits of a number have its value. -/
theorem exactDecimals_value (x : Binary64) :
    (x.exactDecimals.mantissa : ℚ) * 10 ^ x.exactDecimals.power =
      x.significand * 2 ^ x.exponent := by
  unfold exactDecimals
  split
  · rename_i up
    obtain ⟨k, whole⟩ := Int.eq_ofNat_of_zero_le up
    simp [whole, Nat.pow_eq]
  · rename_i down
    obtain ⟨k, whole⟩ : ∃ k : Nat, x.exponent = -k := ⟨(-x.exponent).toNat, by omega⟩
    have tens : (10 : ℚ) ^ k = 5 ^ k * 2 ^ k := by
      rw [← mul_pow]
      norm_num
    simp only [whole, neg_neg, Int.toNat_natCast, Nat.pow_eq, Nat.cast_mul, Nat.cast_pow,
      Nat.cast_ofNat, zpow_neg, zpow_natCast, tens]
    field_simp

/-- Zeros at the end of the digits are factors of ten. -/
theorem Decimals.zeros_dvd (d : Decimals) :
    10 ^ ((digits d.mantissa).reverse.takeWhile (· == '0')).length ∣ d.mantissa := by
  have zeros : (digits d.mantissa).reverse.takeWhile (· == '0') =
      List.replicate ((digits d.mantissa).reverse.takeWhile (· == '0')).length '0' := by
    refine List.eq_replicate_iff.mpr ⟨rfl, fun c member => ?_⟩
    exact eq_of_beq (List.all_eq_true.mp List.all_takeWhile c member)
  have parts := List.takeWhile_append_dropWhile (p := (· == '0')) (l := (digits d.mantissa).reverse)
  rw [zeros] at parts
  have written := congrArg List.reverse parts
  rw [List.reverse_reverse, List.reverse_append, List.reverse_replicate] at written
  have value := ofDigits_digits d.mantissa
  rw [← written, ofDigits, Nat.ofDigitChars_append, Nat.ofDigitChars_replicate_zero] at value
  exact Dvd.intro _ value

/-- Without the zeros at its end a decimal keeps its value. -/
theorem Decimals.stripped_value (d : Decimals) :
    (d.stripped.mantissa : ℚ) * 10 ^ d.stripped.power = d.mantissa * 10 ^ d.power := by
  have whole := d.zeros_dvd
  unfold stripped
  generalize ((digits d.mantissa).reverse.takeWhile (· == '0')).length = zeros at whole ⊢
  have cut : ((d.mantissa / 10 ^ zeros : Nat) : ℚ) * 10 ^ zeros = d.mantissa := by
    exact_mod_cast Nat.div_mul_cancel whole
  simp only [Nat.pow_eq]
  rw [zpow_add₀ (by norm_num), zpow_natCast, mul_comm (10 ^ d.power), ← mul_assoc, cut]

theorem Decimals.stripped_mantissa_pos {d : Decimals} (something : 0 < d.mantissa) :
    0 < d.stripped.mantissa :=
  Nat.div_pos (Nat.le_of_dvd something d.zeros_dvd) (Nat.pow_pos (by decide))

theorem Decimals.ofDecimal_stripped {d : Decimals} (something : 0 < d.mantissa)
    (negative : Bool) :
    ofDecimal negative d.stripped.mantissa d.stripped.power =
      ofDecimal negative d.mantissa d.power :=
  ofDecimal_congr (stripped_mantissa_pos something) something d.stripped_value

/-- Only digits that are not all zero read back as a number that is not zero. -/
theorem mantissa_pos_of_readsBack (something : x.magnitudeBits ≠ 0) {d : Decimals}
    (back : x.readsBack d = true) : 0 < d.mantissa := by
  rw [readsBack, beq_iff_eq] at back
  by_contra nothing
  have zero : d.mantissa = 0 := by omega
  have bits := congrArg magnitudeBits back
  have small : x.magnitudeBits < signBit := Nat.mod_lt _ (by decide)
  rw [abs, magnitudeBits_ofMagnitudeBits false small, zero, ofDecimal] at bits
  exact something bits.symm

/-- The decimal that is written for a number reads back as it. -/
theorem readsBack_shortest (finite : x.isFinite = true) (something : x.magnitudeBits ≠ 0)
    (halfway : Halfway) :
    x.readsBack (x.shortest halfway) = true ∧ 0 < (x.shortest halfway).mantissa := by
  have whole : x.readsBack x.exactDecimals = true := by
    rw [readsBack, beq_iff_eq]
    exact ofDecimal_of_value finite something x.exactDecimals_value
  have stripped (d : Decimals) (back : x.readsBack d = true) :
      x.readsBack d.stripped = true ∧ 0 < d.stripped.mantissa := by
    have positive := mantissa_pos_of_readsBack something back
    refine ⟨?_, Decimals.stripped_mantissa_pos positive⟩
    rw [readsBack, Decimals.ofDecimal_stripped positive]
    exact back
  unfold shortest
  apply stripped
  generalize List.flatMap _ _ = candidates
  cases found : candidates.find? x.readsBack with
  | none => exact whole
  | some d => exact List.find?_some found

/-- A finite number other than zero is read from the decimal that is written for it. -/
theorem ofDecimal_shortest (finite : x.isFinite = true) (something : x.magnitudeBits ≠ 0)
    (halfway : Halfway) :
    ofDecimal x.isNegative (x.shortest halfway).mantissa (x.shortest halfway).power = x := by
  have back := (readsBack_shortest finite something halfway).1
  have small : x.magnitudeBits < signBit := Nat.mod_lt _ (by decide)
  rw [readsBack, beq_iff_eq] at back
  rw [ofDecimal_sign, back, abs, withSign_ofMagnitudeBits _ _ small]
  exact x.withSign_self

end Written

end SqlScribe.Binary64

import Mathlib.Tactic.NormNum
import SqlScribe.Proofs.Number.Amount
import SqlScribe.Proofs.Number.Magnitude
import SqlScribe.Number.Decimal.Conversion

/-!
# Accuracy

How far a computed number may be from the number that is meant. One rounding changes a number by a
factor of at most `slack`, either way, and such factors add up along sums, products and quotients.
-/

namespace SqlScribe

/-- The factor that one rounding may change a number by. -/
def slack : ℚ := 1 + 1 / 2 ^ 53

theorem slack_pos : 0 < slack := by norm_num [slack]

theorem one_le_slack : 1 ≤ slack := by norm_num [slack]

/-- Each of two numbers is at most the other after so many roundings. -/
def Close (k : ℕ) (a b : ℚ) : Prop := a ≤ b * slack ^ k ∧ b ≤ a * slack ^ k

namespace Close

variable {j k : ℕ} {a b c d : ℚ}

theorem refl (a : ℚ) : Close 0 a a := by simp [Close]

theorem symm (h : Close k a b) : Close k b a := ⟨h.2, h.1⟩

theorem trans (first : Close j a b) (second : Close k b c) : Close (j + k) a c := by
  have pj : 0 < slack ^ j := pow_pos slack_pos j
  have pk : 0 < slack ^ k := pow_pos slack_pos k
  constructor
  · calc a ≤ b * slack ^ j := first.1
      _ ≤ c * slack ^ k * slack ^ j := by gcongr; exact second.1
      _ = c * slack ^ (j + k) := by ring
  · calc c ≤ b * slack ^ k := second.2
      _ ≤ a * slack ^ j * slack ^ k := by gcongr; exact first.2
      _ = a * slack ^ (j + k) := by ring

theorem mono (h : Close j a b) (more : j ≤ k) (ha : 0 ≤ a) (hb : 0 ≤ b) : Close k a b := by
  have factor : slack ^ j ≤ slack ^ k := pow_le_pow_right₀ one_le_slack more
  exact ⟨h.1.trans (by gcongr), h.2.trans (by gcongr)⟩

theorem add (first : Close k a b) (second : Close k c d) : Close k (a + c) (b + d) := by
  constructor
  · rw [add_mul]
    exact add_le_add first.1 second.1
  · rw [add_mul]
    exact add_le_add first.2 second.2

theorem mul (first : Close j a b) (second : Close k c d) (ha : 0 ≤ a) (hb : 0 ≤ b) (hc : 0 ≤ c)
    (hd : 0 ≤ d) : Close (j + k) (a * c) (b * d) := by
  have pj : 0 < slack ^ j := pow_pos slack_pos j
  have pk : 0 < slack ^ k := pow_pos slack_pos k
  constructor
  · calc a * c ≤ (b * slack ^ j) * (d * slack ^ k) := by
          gcongr
          · exact first.1
          · exact second.1
      _ = b * d * slack ^ (j + k) := by ring
  · calc b * d ≤ (a * slack ^ j) * (c * slack ^ k) := by
          gcongr
          · exact first.2
          · exact second.2
      _ = a * c * slack ^ (j + k) := by ring

theorem inv (h : Close k a b) (ha : 0 < a) (hb : 0 < b) : Close k a⁻¹ b⁻¹ := by
  constructor
  · rw [inv_mul_eq_div, le_div_iff₀ hb, inv_mul_le_iff₀ ha]
    exact h.2
  · rw [inv_mul_eq_div, le_div_iff₀ ha, inv_mul_le_iff₀ hb]
    exact h.1

theorem div (first : Close j a b) (second : Close k c d) (ha : 0 ≤ a) (hb : 0 ≤ b) (hc : 0 < c)
    (hd : 0 < d) : Close (j + k) (a / c) (b / d) := by
  rw [div_eq_mul_inv, div_eq_mul_inv]
  exact first.mul (second.inv hc hd) ha hb (inv_nonneg.mpr hc.le) (inv_nonneg.mpr hd.le)

/-- The distance of close numbers is a small part of either. -/
theorem abs_sub_le (h : Close k a b) (hb : 0 ≤ b) : |a - b| ≤ (slack ^ k - 1) * b := by
  have above : 1 ≤ slack ^ k := one_le_pow₀ one_le_slack
  rw [abs_sub_le_iff]
  refine ⟨by linarith [h.1], ?_⟩
  have ha : 0 ≤ a := by
    by_contra negative
    have := mul_neg_of_neg_of_pos (lt_of_not_ge negative) (pow_pos slack_pos k)
    linarith [h.2]
  by_cases order : b ≤ a
  · have := mul_nonneg (sub_nonneg.mpr above) hb
    linarith
  · calc b - a ≤ a * slack ^ k - a := by linarith [h.2]
      _ = (slack ^ k - 1) * a := by ring
      _ ≤ (slack ^ k - 1) * b := by
        have := sub_nonneg.mpr above
        gcongr
        exact (lt_of_not_ge order).le

end Close

namespace Binary64

section Rounding

variable {num den : Nat}

/-- The nearest whole number is half a unit away at most. -/
theorem roundHalfEven_near (positive : 0 < den) (num : Nat) :
    |(roundHalfEven num den : ℚ) - num / den| ≤ 1 / 2 := by
  have parts := Nat.div_add_mod num den
  have rest := Nat.mod_lt num positive
  have real : (0 : ℚ) < den := Nat.cast_pos.mpr positive
  have twice : 2 * (roundHalfEven num den * den) ≤ 2 * num + den ∧
      2 * num ≤ 2 * (roundHalfEven num den * den) + den := by
    simp only [roundHalfEven]
    generalize num / den = whole at *
    generalize num % den = low at *
    rw [Nat.mul_comm den] at parts
    split
    · omega
    · split
      · rw [Nat.add_mul]
        omega
      · obtain even | odd := Nat.mod_two_eq_zero_or_one whole
        · rw [even, Nat.add_zero]
          omega
        · rw [odd, Nat.add_mul]
          omega
  have upper : 2 * ((roundHalfEven num den : ℚ) * den) ≤ 2 * num + den := by
    exact_mod_cast twice.1
  have lower : 2 * (num : ℚ) ≤ 2 * (roundHalfEven num den * den) + den := by
    exact_mod_cast twice.2
  rw [abs_sub_le_iff, sub_le_iff_le_add, sub_le_iff_le_add, div_add_div _ _ two_ne_zero real.ne',
    div_le_iff₀ real]
  constructor
  · rw [le_div_iff₀ (by positivity)]
    linarith
  · linarith

theorem isNegative_ofMagnitudeBits (negative : Bool) {magnitude : Nat}
    (fits : magnitude < signBit) : (ofMagnitudeBits negative magnitude).isNegative = negative := by
  unfold ofMagnitudeBits isNegative
  cases negative <;> simp [signBit] at fits ⊢ <;> omega

/-- A significand may have one bit more than there is room for, if it is a power of two. -/
theorem size_ofMagnitudeBits (negative : Bool) {significand : Nat} {power : Int}
    (least : -1074 ≤ power) (most : power ≤ 960) (low : fractionUnit ≤ significand)
    (high : significand ≤ 2 * fractionUnit) :
    let x := ofMagnitudeBits negative ((power + 1074).toNat * fractionUnit + significand)
    x.isFinite = true ∧ x.size = significand * 2 ^ power := by
  have fits : (power + 1074).toNat * fractionUnit + significand < infinityBits := by
    unfold infinityBits fractionUnit at *
    omega
  have bits := magnitudeBits_ofMagnitudeBits negative (fits.trans (by decide))
  refine ⟨decide_eq_true (by rwa [bits]), ?_⟩
  obtain ⟨steps, whole⟩ : ∃ steps : Nat, power = steps - 1074 := ⟨(power + 1074).toNat, by omega⟩
  have taken : (power + 1074).toNat = steps := by omega
  rw [taken] at bits ⊢
  unfold size Binary64.significand exponent
  rw [bits]
  obtain within | carried := Nat.lt_or_eq_of_le high
  · have field : (steps * fractionUnit + significand) / fractionUnit = steps + 1 := by
      unfold fractionUnit at *
      omega
    have fraction : fractionUnit + (steps * fractionUnit + significand) % fractionUnit =
        significand := by
      unfold fractionUnit at *
      omega
    rw [field, if_neg (Nat.succ_ne_zero steps), if_neg (Nat.succ_ne_zero steps), fraction, whole]
    congr 2
    omega
  · have field : (steps * fractionUnit + significand) / fractionUnit = steps + 2 := by
      unfold fractionUnit at *
      omega
    have fraction : (steps * fractionUnit + significand) % fractionUnit = 0 := by
      unfold fractionUnit at *
      omega
    have next : ((steps + 2 : Nat) : Int) - 1075 = power + 1 := by omega
    rw [field, if_neg (Nat.succ_ne_zero _), if_neg (Nat.succ_ne_zero _), fraction, next, carried,
      zpow_add₀ two_ne_zero]
    push_cast
    ring

/-- A finite magnitude is a number after so many roundings. -/
structure Near (k : ℕ) (x : Binary64) (r : ℚ) : Prop where
  finite : x.isFinite = true
  close : Close k x.size r

/-- The number that a fraction is rounded to, as a whole multiple of a power of two. -/
def significandAt (num den : Nat) (power : Int) : Nat :=
  roundHalfEven (scaleDown num den power).1 (scaleDown num den power).2

/-- At the right power of two the significand has all its bits. -/
theorem significandAt_full (positive : 0 < den) {power : Int}
    (low : (2 : ℚ) ^ 52 ≤ num / den / 2 ^ power) (high : (num : ℚ) / den / 2 ^ power < 2 ^ 53) :
    fractionUnit ≤ significandAt num den power ∧
      significandAt num den power ≤ 2 * fractionUnit := by
  have rounded := roundHalfEven_near (@scaleDown_den_pos num den positive power)
    (scaleDown num den power).1
  rw [scaleDown_value] at rounded
  obtain ⟨upper, lower⟩ := abs_sub_le_iff.mp rounded
  rw [significandAt]
  generalize roundHalfEven (scaleDown num den power).1 (scaleDown num den power).2 = s at *
  unfold fractionUnit
  constructor
  · by_contra less
    have short : (s : ℚ) + 1 ≤ 2 ^ 52 := by exact_mod_cast (by omega : s + 1 ≤ 2 ^ 52)
    linarith
  · by_contra more
    have long : (2 : ℚ) ^ 53 + 1 ≤ s := by exact_mod_cast (by omega : 2 ^ 53 + 1 ≤ s)
    linarith

/-- How a fraction is rounded: at the power of two that leaves a significand of 53 bits. -/
structure RoundedAt (num den : Nat) (power : Int) : Prop where
  log : Int.log 2 ((num : ℚ) / den) = power + 52
  low : (2 : ℚ) ^ 52 * 2 ^ power ≤ num / den
  full : fractionUnit ≤ significandAt num den power ∧
    significandAt num den power ≤ 2 * fractionUnit
  finite : (ofRatio false num den).isFinite = true
  size : (ofRatio false num den).size = significandAt num den power * 2 ^ power

/-- A fraction that is neither tiny nor huge is rounded to a finite number with all its bits. -/
theorem exists_roundedAt (something : 0 < num) (positive : 0 < den)
    (low : (2 : ℚ) ^ (-200 : Int) ≤ num / den) (high : (num : ℚ) / den ≤ 2 ^ (200 : Int)) :
    ∃ power, RoundedAt num den power := by
  have above : (0 : ℚ) < num / den := by positivity
  have least : -200 ≤ Int.log 2 ((num : ℚ) / den) := by
    refine (Int.zpow_le_iff_le_log Nat.one_lt_two above).mp ?_
    rw [Nat.cast_ofNat]
    exact low
  have most : Int.log 2 ((num : ℚ) / den) < 201 := by
    refine (Int.lt_zpow_iff_log_lt Nat.one_lt_two above).mp ?_
    rw [Nat.cast_ofNat]
    exact high.trans_lt (zpow_lt_zpow_right₀ one_lt_two (by decide))
  have at_least : (2 : ℚ) ^ Int.log 2 ((num : ℚ) / den) ≤ num / den := by
    exact_mod_cast Int.zpow_log_le_self Nat.one_lt_two above
  have below : (num : ℚ) / den < 2 ^ (Int.log 2 ((num : ℚ) / den) + 1) := by
    exact_mod_cast Int.lt_zpow_succ_log_self Nat.one_lt_two ((num : ℚ) / den)
  obtain ⟨power, log⟩ : ∃ power, Int.log 2 ((num : ℚ) / den) = power + 52 :=
    ⟨Int.log 2 ((num : ℚ) / den) - 52, by omega⟩
  have unit : (0 : ℚ) < 2 ^ power := by positivity
  have first : (2 : ℚ) ^ (power + 52) = 2 ^ 52 * 2 ^ power := by
    rw [zpow_add₀ two_ne_zero, mul_comm]
    rfl
  have last : (2 : ℚ) ^ (power + 52 + 1) = 2 ^ 53 * 2 ^ power := by
    rw [zpow_add₀ two_ne_zero, first]
    ring
  rw [log, first] at at_least
  rw [log, last] at below
  have full := significandAt_full positive ((le_div_iff₀ unit).mpr at_least)
    ((div_lt_iff₀ unit).mpr below)
  have fits : (power + 1074).toNat * fractionUnit + significandAt num den power ≤
      infinityBits := by
    unfold infinityBits fractionUnit at *
    omega
  have taken : ofRatio false num den = ofMagnitudeBits false
      ((power + 1074).toNat * fractionUnit + significandAt num den power) := by
    have chosen : max (binaryMagnitude num den - 52) (-1074) = power := by
      rw [binaryMagnitude_eq_log something positive]
      omega
    rw [ofRatio, if_neg something.ne', chosen]
    exact congrArg (ofMagnitudeBits false) (Nat.min_eq_left fits)
  have range : -1074 ≤ power ∧ power ≤ 960 := by omega
  obtain ⟨finite, size⟩ := size_ofMagnitudeBits false range.1 range.2 full.1 full.2
  exact ⟨power, log, at_least, full, taken ▸ finite, taken ▸ size⟩

/-- Half a unit is the `2 ^ 53`rd part of the least number with its exponent. -/
theorem RoundedAt.near {power : Int} (h : RoundedAt num den power) (positive : 0 < den) :
    Near 1 (ofRatio false num den) (num / den) where
  finite := h.finite
  close := by
    have unit : (0 : ℚ) < 2 ^ power := by positivity
    have rounded := roundHalfEven_near (@scaleDown_den_pos num den positive power)
      (scaleDown num den power).1
    rw [scaleDown_value, ← significandAt] at rounded
    obtain ⟨upper, lower⟩ := abs_sub_le_iff.mp rounded
    rw [sub_le_iff_le_add, ← sub_le_iff_le_add', le_div_iff₀ unit] at upper
    rw [sub_le_iff_le_add, div_le_iff₀ unit] at lower
    have whole : (2 : ℚ) ^ 52 ≤ significandAt num den power := by
      have full := h.full.1
      unfold fractionUnit at full
      exact_mod_cast full
    have scaled := mul_le_mul_of_nonneg_right whole unit.le
    have low := h.low
    rw [h.size]
    unfold Close slack
    constructor <;> linarith

theorem roundHalfEven_bounds (num den : Nat) :
    num / den ≤ roundHalfEven num den ∧ roundHalfEven num den ≤ num / den + 1 := by
  simp only [roundHalfEven]
  split_ifs <;> omega

theorem roundHalfEven_mono {num' : Nat} (more : num ≤ num') :
    roundHalfEven num den ≤ roundHalfEven num' den := by
  obtain same | less := (Nat.div_le_div_right (c := den) more).eq_or_lt
  · have rests : num % den ≤ num' % den := by
      have parts := Nat.div_add_mod num den
      have parts' := Nat.div_add_mod num' den
      rw [same] at parts
      omega
    simp only [roundHalfEven, same]
    split_ifs <;> omega
  · have below := (roundHalfEven_bounds num den).2
    have above := (roundHalfEven_bounds num' den).1
    omega

theorem significandAt_mono {num' : Nat} (more : num ≤ num') (power : Int) :
    significandAt num 1 power ≤ significandAt num' 1 power := by
  unfold significandAt scaleDown
  split
  · exact roundHalfEven_mono more
  · exact roundHalfEven_mono (Nat.mul_le_mul_right _ more)

/-- A greater whole number is not rounded to a smaller number. -/
theorem RoundedAt.size_mono {num' : Nat} {power power' : Int} (h : RoundedAt num 1 power)
    (h' : RoundedAt num' 1 power') (something : 0 < num) (more : num ≤ num') :
    (ofRatio false num 1).size ≤ (ofRatio false num' 1).size := by
  have powers : power ≤ power' := by
    have logs : Int.log 2 ((num : ℚ) / (1 : Nat)) ≤ Int.log 2 ((num' : ℚ) / (1 : Nat)) :=
      Int.log_mono_right (by positivity) (by gcongr)
    rw [h.log, h'.log] at logs
    omega
  rw [h.size, h'.size]
  obtain same | less := powers.eq_or_lt
  · rw [← same]
    have significands := significandAt_mono more power
    gcongr
  · have steps : (2 : ℚ) ^ (power + 1) ≤ 2 ^ power' := zpow_le_zpow_right₀ one_le_two less
    have low := h'.full.1
    calc (significandAt num 1 power : ℚ) * 2 ^ power
        ≤ (2 * fractionUnit : Nat) * 2 ^ power := by
          gcongr
          exact h.full.2
      _ = fractionUnit * 2 ^ (power + 1) := by
          rw [zpow_add₀ two_ne_zero]
          push_cast
          ring
      _ ≤ significandAt num' 1 power' * 2 ^ power' := by gcongr

theorem ofRatio_zero (den : Nat) : ofRatio false 0 den = zero := rfl

theorem near_zero : Near 0 zero 0 where
  finite := by decide
  close := by
    have nothing : zero.size = 0 := by
      have none : zero.significand = 0 := by decide
      rw [size, none, Nat.cast_zero, zero_mul]
    rw [nothing]
    exact Close.refl 0

end Rounding

section Operations

variable {num den j k : Nat} {x y : Binary64} {r s : ℚ}

/-- The number is far from both ends of the range. -/
def Moderate (r : ℚ) : Prop := 2 ^ (-120 : Int) ≤ r ∧ r ≤ 2 ^ (120 : Int)

theorem Moderate.pos (h : Moderate r) : 0 < r := lt_of_lt_of_le (by positivity) h.1

theorem slack_pow_le_two (few : k ≤ 20) : slack ^ k ≤ 2 :=
  (pow_le_pow_right₀ one_le_slack few).trans (by norm_num [slack])

/-- What is close to a number is rounded once more. -/
theorem near_of_close (positive : 0 < den) (close : Close k (num / den) r) (few : k ≤ 20)
    (moderate : Moderate r) : Near (k + 1) (ofRatio false num den) r := by
  have factor := slack_pow_le_two few
  have given : (0 : ℚ) ≤ num / den := by positivity
  have upper : (num : ℚ) / den ≤ r * 2 :=
    close.1.trans (mul_le_mul_of_nonneg_left factor moderate.pos.le)
  have lower : r ≤ num / den * 2 := close.2.trans (mul_le_mul_of_nonneg_left factor given)
  have something : 0 < num := by
    have above : (0 : ℚ) < num / den := by linarith [moderate.pos]
    by_contra nothing
    rw [Nat.eq_zero_of_not_pos nothing] at above
    simp at above
  have low : (2 : ℚ) ^ (-200 : Int) * 2 ≤ num / den * 2 :=
    le_trans (by norm_num) (moderate.1.trans lower)
  have high : (num : ℚ) / den ≤ 2 ^ (200 : Int) :=
    upper.trans ((mul_le_mul_of_nonneg_right moderate.2 zero_le_two).trans (by norm_num))
  obtain ⟨power, rounded⟩ :=
    exists_roundedAt something positive (le_of_mul_le_mul_right low two_pos) high
  have once := rounded.near positive
  exact ⟨once.finite, Nat.add_comm 1 k ▸ once.close.trans close⟩

theorem ratio_eq_size (x : Binary64) : (x.ratio.1 : ℚ) / x.ratio.2 = x.size := x.ratio_value

theorem addMagnitudes_eq (x y : Binary64) : addMagnitudes x y =
    ofRatio false (x.ratio.1 * y.ratio.2 + y.ratio.1 * x.ratio.2) (x.ratio.2 * y.ratio.2) :=
  rfl

theorem mulMagnitudes_eq (x y : Binary64) :
    mulMagnitudes x y = ofRatio false (x.ratio.1 * y.ratio.1) (x.ratio.2 * y.ratio.2) :=
  rfl

theorem divMagnitudes_eq (x y : Binary64) :
    divMagnitudes x y = ofRatio false (x.ratio.1 * y.ratio.2) (x.ratio.2 * y.ratio.1) :=
  rfl

theorem roundMagnitude_eq (x : Binary64) : roundMagnitude x =
    ofRatio false ((2 * x.ratio.1 + x.ratio.2) / (2 * x.ratio.2)) 1 :=
  rfl

theorem zero_divMagnitudes (x : Binary64) : zero.divMagnitudes x = zero := by
  have nothing : zero.ratio.1 = 0 := by decide +kernel
  rw [divMagnitudes_eq, nothing, Nat.zero_mul, ofRatio_zero]

theorem Near.add (left : Near k x r) (right : Near k y s) (few : k ≤ 20)
    (moderate : Moderate (r + s)) : Near (k + 1) (addMagnitudes x y) (r + s) := by
  have first : (x.ratio.2 : ℚ) ≠ 0 := Nat.cast_ne_zero.mpr x.ratio_den_pos.ne'
  have second : (y.ratio.2 : ℚ) ≠ 0 := Nat.cast_ne_zero.mpr y.ratio_den_pos.ne'
  rw [addMagnitudes_eq]
  refine near_of_close (Nat.mul_pos x.ratio_den_pos y.ratio_den_pos) ?_ few moderate
  have sum : ((x.ratio.1 * y.ratio.2 + y.ratio.1 * x.ratio.2 : Nat) : ℚ) /
      (x.ratio.2 * y.ratio.2 : Nat) = x.size + y.size := by
    rw [← ratio_eq_size, ← ratio_eq_size, div_add_div _ _ first second]
    push_cast
    ring
  rw [sum]
  exact left.close.add right.close

theorem Near.mul (left : Near j x r) (right : Near k y s) (hr : 0 ≤ r) (hs : 0 ≤ s)
    (few : j + k ≤ 20) (moderate : Moderate (r * s)) :
    Near (j + k + 1) (mulMagnitudes x y) (r * s) := by
  rw [mulMagnitudes_eq]
  refine near_of_close (Nat.mul_pos x.ratio_den_pos y.ratio_den_pos) ?_ few moderate
  have product : ((x.ratio.1 * y.ratio.1 : Nat) : ℚ) / (x.ratio.2 * y.ratio.2 : Nat) =
      x.size * y.size := by
    rw [← ratio_eq_size, ← ratio_eq_size, div_mul_div_comm]
    push_cast
    rfl
  rw [product]
  exact left.close.mul right.close x.size_nonneg hr y.size_nonneg hs

theorem Near.size_pos (h : Near k x r) (positive : 0 < r) : 0 < x.size := by
  have factor : 0 < slack ^ k := pow_pos slack_pos k
  by_contra nothing
  have none : x.size = 0 := le_antisymm (le_of_not_gt nothing) x.size_nonneg
  have below := h.close.2
  rw [none, zero_mul] at below
  linarith

theorem Near.div (left : Near j x r) (right : Near k y s) (hr : 0 ≤ r) (hs : 0 < s)
    (few : j + k ≤ 20) (moderate : Moderate (r / s)) :
    Near (j + k + 1) (divMagnitudes x y) (r / s) := by
  have above := right.size_pos hs
  have something : 0 < y.ratio.1 := by
    rw [← ratio_eq_size] at above
    by_contra nothing
    rw [Nat.eq_zero_of_not_pos nothing] at above
    simp at above
  rw [divMagnitudes_eq]
  refine near_of_close (Nat.mul_pos x.ratio_den_pos something) ?_ few moderate
  have quotient : ((x.ratio.1 * y.ratio.2 : Nat) : ℚ) / (x.ratio.2 * y.ratio.1 : Nat) =
      x.size / y.size := by
    rw [← ratio_eq_size, ← ratio_eq_size, div_div_div_eq]
    push_cast
    rfl
  rw [quotient]
  exact left.close.div right.close x.size_nonneg hr above hs

/-- The nearest whole number lies between a whole number and what is as far on the other side of the
fraction. -/
theorem round_between (positive : 0 < den) (num whole : Nat) :
    let rounded := (2 * num + den) / (2 * den)
    (rounded ≤ whole ∨ rounded * den + whole * den ≤ 2 * num) ∧
      (whole ≤ rounded ∨ 2 * num ≤ rounded * den + whole * den) := by
  intro rounded
  have parts := Nat.div_add_mod (2 * num + den) (2 * den)
  have rest := Nat.mod_lt (2 * num + den) (Nat.mul_pos two_pos positive)
  have product : 2 * den * rounded = 2 * (rounded * den) := by ring
  rw [product] at parts
  constructor
  · obtain below | above := Nat.lt_or_ge whole rounded
    · have step : whole * den + den ≤ rounded * den := by
        rw [← Nat.succ_mul]
        exact Nat.mul_le_mul_right den below
      omega
    · exact .inl above
  · obtain below | above := Nat.lt_or_ge rounded whole
    · have step : rounded * den + den ≤ whole * den := by
        rw [← Nat.succ_mul]
        exact Nat.mul_le_mul_right den below
      omega
    · exact .inl above

/-- Rounding to a whole number at most doubles the distance from the whole number that is meant. -/
theorem Near.round {whole : Nat} (h : Near 4 x whole) (something : 0 < whole)
    (moderate : Moderate whole) : Near 10 (roundMagnitude x) whole := by
  have close : Close 9 (((2 * x.ratio.1 + x.ratio.2) / (2 * x.ratio.2) : Nat) : ℚ) whole := by
    have positive : (0 : ℚ) < x.ratio.2 := Nat.cast_pos.mpr x.ratio_den_pos
    have top : (x.ratio.1 : ℚ) = x.size * x.ratio.2 :=
      (div_eq_iff positive.ne').mp x.ratio_eq_size
    have meant : (0 : ℚ) < whole := Nat.cast_pos.mpr something
    have doubled : 2 * slack ^ 4 ≤ 1 + slack ^ 9 := by norm_num [slack]
    have doubled' : 1 + slack ^ 9 ≤ 2 * slack ^ 5 := by norm_num [slack]
    have factor : 1 ≤ slack ^ 9 := one_le_pow₀ one_le_slack
    obtain ⟨above, below⟩ := h.close
    obtain ⟨upper, lower⟩ := round_between x.ratio_den_pos x.ratio.1 whole
    generalize (2 * x.ratio.1 + x.ratio.2) / (2 * x.ratio.2) = rounded at *
    constructor
    · obtain less | reflected := upper
      · have less : (rounded : ℚ) ≤ whole := Nat.cast_le.mpr less
        exact less.trans (le_mul_of_one_le_right meant.le factor)
      · have reflected : (rounded : ℚ) * x.ratio.2 + whole * x.ratio.2 ≤ 2 * x.ratio.1 := by
          exact_mod_cast reflected
        rw [top, ← mul_assoc, ← add_mul] at reflected
        calc (rounded : ℚ) ≤ 2 * x.size - whole := by
              linarith [le_of_mul_le_mul_right reflected positive]
          _ ≤ whole * (2 * slack ^ 4 - 1) := by linarith
          _ ≤ whole * slack ^ 9 := by
            gcongr
            linarith
    · obtain more | reflected := lower
      · have more : (whole : ℚ) ≤ rounded := Nat.cast_le.mpr more
        exact more.trans (le_mul_of_one_le_right (Nat.cast_nonneg rounded) factor)
      · have reflected : 2 * (x.ratio.1 : ℚ) ≤ rounded * x.ratio.2 + whole * x.ratio.2 := by
          exact_mod_cast reflected
        rw [top, ← mul_assoc, ← add_mul] at reflected
        have at_least : 2 * x.size - whole ≤ rounded := by
          linarith [le_of_mul_le_mul_right reflected positive]
        have fifth : 0 ≤ slack ^ 5 := pow_nonneg slack_pos.le 5
        calc (whole : ℚ) ≤ whole * (2 * slack ^ 5 - slack ^ 9) :=
              le_mul_of_one_le_right meant.le (by linarith)
          _ = 2 * (whole * slack ^ 5) - whole * slack ^ 9 := by ring
          _ ≤ 2 * (x.size * slack ^ 4 * slack ^ 5) - whole * slack ^ 9 := by gcongr
          _ = (2 * x.size - whole) * slack ^ 9 := by ring
          _ ≤ rounded * slack ^ 9 := by gcongr
  rw [← div_one ((((2 * x.ratio.1 + x.ratio.2) / (2 * x.ratio.2) : Nat)) : ℚ), ← Nat.cast_one]
    at close
  rw [roundMagnitude_eq]
  exact near_of_close Nat.one_pos close (by decide) moderate

theorem Near.mono (h : Near j x r) (more : j ≤ k) (hr : 0 ≤ r) : Near k x r :=
  ⟨h.finite, h.close.mono more x.size_nonneg hr⟩

/-- A finite magnitude is its own exact value. -/
theorem Near.self (finite : x.isFinite = true) : Near 0 x x.size := ⟨finite, Close.refl x.size⟩

theorem moderate_of_bounds (low : 1 ≤ r * 10 ^ 30) (high : r ≤ 10 ^ 30) : Moderate r := by
  constructor
  · have scaled : (2 : ℚ) ^ (-120 : Int) * 10 ^ 30 ≤ r * 10 ^ 30 := le_trans (by norm_num) low
    exact le_of_mul_le_mul_right scaled (by positivity)
  · exact high.trans (by norm_num)

/-- A whole number of at most thirty digits is rounded once, and zero not at all. -/
theorem near_ofNat {n : Nat} (small : n ≤ 10 ^ 30) : Near 1 (ofRatio false n 1) n := by
  obtain rfl | something := Nat.eq_zero_or_pos n
  · rw [ofRatio_zero, Nat.cast_zero]
    exact near_zero.mono (Nat.zero_le 1) le_rfl
  · have least : (1 : ℚ) ≤ n := Nat.one_le_cast.mpr something
    have close : Close 0 ((n : ℚ) / (1 : Nat)) n := by
      rw [Nat.cast_one, div_one]
      exact Close.refl _
    refine near_of_close Nat.one_pos close (by decide) (moderate_of_bounds ?_ ?_)
    · linarith
    · exact_mod_cast small

/-- Whole numbers of at most thirty digits keep their order, but may become equal. -/
theorem size_ofNat_mono {m n : Nat} (more : m ≤ n) (small : n ≤ 10 ^ 30) :
    (ofRatio false m 1).size ≤ (ofRatio false n 1).size := by
  obtain rfl | something := Nat.eq_zero_or_pos m
  · have nothing : zero.size = 0 := by
      have close := near_zero.close.1
      rw [zero_mul] at close
      exact le_antisymm close zero.size_nonneg
    rw [ofRatio_zero, nothing]
    exact size_nonneg _
  · have rounded {k : Nat} (low : 0 < k) (high : k ≤ 10 ^ 30) : ∃ power, RoundedAt k 1 power := by
      have least : (1 : ℚ) ≤ k := Nat.one_le_cast.mpr low
      have most : (k : ℚ) ≤ 10 ^ 30 := by exact_mod_cast high
      refine exists_roundedAt low Nat.one_pos ?_ ?_
      · rw [Nat.cast_one, div_one]
        exact le_trans (by norm_num) least
      · rw [Nat.cast_one, div_one]
        exact most.trans (by norm_num)
    obtain ⟨power, first⟩ := rounded something (more.trans small)
    obtain ⟨power', second⟩ := rounded (something.trans_le more) small
    exact first.size_mono second something more

end Operations

end Binary64

namespace Decimal

open Binary64

/-- A mantissa that is no multiple of its unit, and the number that the unit is rounded to. -/
structure Splits (mantissa unit : Nat) (scale : Binary64) : Prop where
  small : (mantissa : ℚ) ≤ 10 ^ 29
  least : (1 : ℚ) ≤ unit
  most : (unit : ℚ) ≤ 10 ^ 28
  rest : (1 : ℚ) ≤ (mantissa % unit : Nat)
  scaled : Near 1 scale unit

namespace Splits

variable {mantissa unit : Nat} {scale : Binary64} (h : Splits mantissa unit scale)
include h

theorem scale_pos : 0 < scale.size := h.scaled.size_pos (by linarith [h.least])

theorem scale_le : scale.size ≤ unit * 2 := by
  have factor : slack ^ 1 ≤ 2 := slack_pow_le_two (by decide)
  exact h.scaled.close.1.trans (by gcongr)

theorem le_scale : (unit : ℚ) ≤ scale.size * 2 := by
  have factor : slack ^ 1 ≤ 2 := slack_pow_le_two (by decide)
  have positive := h.scale_pos
  exact h.scaled.close.2.trans (by gcongr)

theorem rest_le : ((mantissa % unit : Nat) : ℚ) ≤ unit :=
  Nat.cast_le.mpr (Nat.mod_lt mantissa (by exact_mod_cast h.least)).le

theorem one_le_mantissa : (1 : ℚ) ≤ mantissa :=
  h.rest.trans (Nat.cast_le.mpr (Nat.mod_le mantissa unit))

/-- The scale is taken as it is, rounded. -/
theorem near_rest : Near 2 (divMagnitudes (Binary64.ofRatio false (mantissa % unit) 1) scale)
    ((mantissa % unit : Nat) / scale.size) := by
  have digits : mantissa % unit ≤ 10 ^ 30 := by
    have := h.rest_le.trans h.most
    have small : mantissa % unit ≤ 10 ^ 28 := by exact_mod_cast this
    omega
  refine (near_ofNat digits).div (Near.self h.scaled.finite) (Nat.cast_nonneg _) h.scale_pos
    (by decide) (moderate_of_bounds ?_ ?_)
  · rw [div_mul_eq_mul_div, le_div_iff₀ h.scale_pos]
    linarith [h.rest, h.scale_le, h.most]
  · rw [div_le_iff₀ h.scale_pos]
    linarith [h.rest_le, h.le_scale, h.least]

theorem near_whole : Near 2 (Binary64.ofRatio false (mantissa / unit) 1)
    ((mantissa / unit : Nat) * (unit / scale.size)) := by
  have digits : mantissa / unit ≤ 10 ^ 30 := by
    have small : mantissa ≤ 10 ^ 29 := by exact_mod_cast h.small
    have := Nat.div_le_self mantissa unit
    omega
  have positive : (0 : ℚ) < unit := by linarith [h.least]
  have quotient := (Close.refl (unit : ℚ)).div h.scaled.close.symm positive.le positive.le positive
    h.scale_pos
  rw [div_self positive.ne'] at quotient
  have product := (Close.refl ((mantissa / unit : Nat) : ℚ)).mul quotient (Nat.cast_nonneg _)
    (Nat.cast_nonneg _) zero_le_one (div_nonneg positive.le h.scale_pos.le)
  rw [mul_one] at product
  have whole := near_ofNat digits
  have joined := whole.close.trans product
  exact ⟨whole.finite, joined⟩

theorem near_sum : Near 3 (addMagnitudes (Binary64.ofRatio false (mantissa / unit) 1)
    (divMagnitudes (Binary64.ofRatio false (mantissa % unit) 1) scale))
    (mantissa / scale.size) := by
  have total : ((mantissa / unit : Nat) : ℚ) * (unit / scale.size) +
      (mantissa % unit : Nat) / scale.size = mantissa / scale.size := by
    have parts : (unit : ℚ) * (mantissa / unit : Nat) + (mantissa % unit : Nat) = mantissa := by
      exact_mod_cast Nat.div_add_mod mantissa unit
    rw [← parts]
    ring
  rw [← total]
  refine h.near_whole.add h.near_rest (by decide) ?_
  rw [total]
  apply moderate_of_bounds
  · rw [div_mul_eq_mul_div, le_div_iff₀ h.scale_pos]
    linarith [h.one_le_mantissa, h.scale_le, h.most]
  · rw [div_le_iff₀ h.scale_pos]
    linarith [h.small, h.le_scale, h.least]

/-- What the scale was rounded by is gone once the sum is multiplied by it. -/
theorem near_product : Near 4 (mulMagnitudes (addMagnitudes
    (Binary64.ofRatio false (mantissa / unit) 1)
    (divMagnitudes (Binary64.ofRatio false (mantissa % unit) 1) scale)) scale) mantissa := by
  have cancelled : (mantissa : ℚ) / scale.size * scale.size = mantissa :=
    div_mul_cancel₀ _ h.scale_pos.ne'
  have moderate : Moderate ((mantissa : ℚ) / scale.size * scale.size) := by
    rw [cancelled]
    exact moderate_of_bounds (by linarith [h.one_le_mantissa]) (by linarith [h.small])
  have product := h.near_sum.mul (Near.self h.scaled.finite)
    (div_nonneg (Nat.cast_nonneg _) h.scale_pos.le) h.scale_pos.le (by decide) moderate
  rwa [cancelled] at product

theorem near_quotient : Near 12 (divMagnitudes (roundMagnitude (mulMagnitudes (addMagnitudes
    (Binary64.ofRatio false (mantissa / unit) 1)
    (divMagnitudes (Binary64.ofRatio false (mantissa % unit) 1) scale)) scale)) scale)
    (mantissa / unit) := by
  have positive : (0 : ℚ) < unit := by linarith [h.least]
  have rounded := h.near_product.round (by exact_mod_cast h.one_le_mantissa)
    (moderate_of_bounds (by linarith [h.one_le_mantissa]) (by linarith [h.small]))
  refine rounded.div h.scaled (Nat.cast_nonneg _) positive (by decide) (moderate_of_bounds ?_ ?_)
  · rw [div_mul_eq_mul_div, le_div_iff₀ positive]
    linarith [h.one_le_mantissa, h.most]
  · rw [div_le_iff₀ positive]
    linarith [h.small, h.least]

end Splits

theorem splits {d : Decimal} (rest : d.mantissa % Nat.pow 10 d.scale ≠ 0) :
    Splits d.mantissa (Nat.pow 10 d.scale)
      (Binary64.ofRatio false (Nat.pow 10 d.scale) 1) := by
  have one : 1 ≤ Nat.pow 10 d.scale := Nat.pow_pos (by decide)
  have places : Nat.pow 10 d.scale ≤ 10 ^ 28 := Nat.pow_le_pow_right (by decide) d.scale_le
  have small : d.mantissa ≤ 10 ^ 29 := by
    have fits := d.mantissa_lt
    unfold mantissaLimit at fits
    omega
  constructor
  · exact_mod_cast small
  · exact_mod_cast one
  · exact_mod_cast places
  · exact_mod_cast Nat.pos_of_ne_zero rest
  · exact near_ofNat (by omega)

/-- A decimal without places that count is rounded as the whole number it is. -/
theorem toBinary64_of_whole {d : Decimal} (rest : d.mantissa % Nat.pow 10 d.scale = 0) :
    d.toBinary64 = Binary64.ofRatio d.negative (d.mantissa / Nat.pow 10 d.scale) 1 := by
  have nothing : Binary64.zero.magnitudeBits = 0 := by decide
  rw [ofRatio_sign]
  simp only [toBinary64, rest, ofRatio_zero, zero_divMagnitudes, nothing, if_true]

/-- The magnitude of the number for a decimal. -/
theorem near_magnitude (d : Decimal) : ∃ x : Binary64,
    d.toBinary64 = x.withSign d.negative ∧ Near 12 x (d.mantissa / 10 ^ d.scale) := by
  have cast : ((Nat.pow 10 d.scale : Nat) : ℚ) = 10 ^ d.scale := by
    rw [Nat.pow_eq]
    push_cast
    rfl
  rw [← cast]
  by_cases rest : d.mantissa % Nat.pow 10 d.scale = 0
  · refine ⟨_, (toBinary64_of_whole rest).trans (ofRatio_sign _ _ _), ?_⟩
    have one : 0 < Nat.pow 10 d.scale := Nat.pow_pos (by decide)
    have whole : ((d.mantissa / Nat.pow 10 d.scale : Nat) : ℚ) =
        d.mantissa / (Nat.pow 10 d.scale : Nat) := by
      rw [eq_div_iff (Nat.cast_ne_zero.mpr one.ne')]
      exact_mod_cast Nat.div_mul_cancel (Nat.dvd_of_mod_eq_zero rest)
    rw [← whole]
    have small : d.mantissa / Nat.pow 10 d.scale ≤ 10 ^ 30 := by
      have fits := d.mantissa_lt
      have less := Nat.div_le_self d.mantissa (Nat.pow 10 d.scale)
      unfold mantissaLimit at fits
      omega
    exact (near_ofNat small).mono (by decide) (Nat.cast_nonneg _)
  · have parts := splits rest
    have something := size_pos_iff.mp
      (parts.near_rest.size_pos (div_pos (by linarith [parts.rest]) parts.scale_pos))
    refine ⟨_, rfl, ?_⟩
    rw [if_neg something]
    exact parts.near_quotient

end Decimal

end SqlScribe

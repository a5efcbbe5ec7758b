import SqlScribe.Proofs.Number.Accuracy
import SqlScribe.Proofs.Value.Ranks

/-!
# Integers among amounts

An integer and an amount are compared as double-precision numbers, each of them rounded. That is
their exact order if they are equal, or if their distance is not too small a part of the amount;
numbers that are closer may tie, or come out the wrong way round.
-/

namespace SqlScribe

namespace Binary64

variable {k : Nat} {x y : Binary64} {r a b : ℚ}

theorem magnitudeBits_withSign (negative : Bool) (x : Binary64) :
    (x.withSign negative).magnitudeBits = x.magnitudeBits :=
  magnitudeBits_ofMagnitudeBits negative (Nat.mod_lt _ (by decide))

theorem isFinite_withSign (negative : Bool) (x : Binary64) :
    (x.withSign negative).isFinite = x.isFinite := by
  rw [isFinite, isFinite, magnitudeBits_withSign]

theorem value_withSign (negative : Bool) (x : Binary64) :
    (x.withSign negative).value = if negative then -x.size else x.size := by
  have sign : (x.withSign negative).isNegative = negative :=
    isNegative_ofMagnitudeBits negative (Nat.mod_lt _ (by decide))
  have size : (x.withSign negative).size = x.size := by
    unfold Binary64.size significand exponent
    rw [magnitudeBits_withSign]
  rw [value, sign, size]

/-- A finite number is a number after so many roundings, signs included. -/
structure Meets (k : Nat) (x : Binary64) (a : ℚ) : Prop where
  finite : x.isFinite = true
  distance : |x.value - a| ≤ (slack ^ k - 1) * |a|

theorem Near.meets (h : Near k x r) (hr : 0 ≤ r) (negative : Bool) :
    Meets k (x.withSign negative) (if negative then -r else r) where
  finite := (isFinite_withSign negative x).trans h.finite
  distance := by
    have distance := h.close.abs_sub_le hr
    rw [value_withSign]
    cases negative with
    | false =>
      rw [if_neg Bool.false_ne_true, if_neg Bool.false_ne_true, abs_of_nonneg hr]
      exact distance
    | true =>
      rw [if_pos rfl, if_pos rfl, neg_sub_neg, abs_neg, abs_of_nonneg hr, abs_sub_comm]
      exact distance

theorem meets_ofInt (n : Int64) : Meets 1 (ofInt n.toInt) n.toInt := by
  have small : n.toInt.natAbs ≤ 10 ^ 30 := by
    have := n.toInt_lt
    have := n.le_toInt
    omega
  have meets := (near_ofNat small).meets (Nat.cast_nonneg _) (decide (n.toInt < 0))
  have number : (if decide (n.toInt < 0) then -(n.toInt.natAbs : ℚ) else n.toInt.natAbs) =
      n.toInt := by
    rw [← Int.cast_natCast, ← Int.cast_neg]
    by_cases below : n.toInt < 0
    · rw [if_pos (decide_eq_true below), Int.ofNat_natAbs_of_nonpos below.le, neg_neg]
    · rw [if_neg (by simpa using below), Int.natAbs_of_nonneg (le_of_not_gt below)]
  rw [number, ← ofRatio_sign] at meets
  exact meets

theorem meets_toBinary64 (d : Decimal) : Meets 12 d.toBinary64 d.amount := by
  obtain ⟨x, same, near⟩ := d.near_magnitude
  have meets := near.meets (by positivity) d.negative
  have number : (if d.negative then -((d.mantissa : ℚ) / 10 ^ d.scale)
      else d.mantissa / 10 ^ d.scale) = d.amount := by
    unfold Decimal.amount Decimal.signedMantissa
    cases d.negative
    · rfl
    · simp only [if_true]
      push_cast
      ring
  rw [number, ← same] at meets
  exact meets

/-- The distance of two numbers is known up to less than itself, unless it is too small a part of
them. -/
theorem Meets.distance_lt (left : Meets 1 x a) (right : Meets 12 y b) (different : a ≠ b)
    (apart : |b| ≤ 2 ^ 49 * |a - b|) : |(x.value - y.value) - (a - b)| < |a - b| := by
  have once : slack ^ 1 - 1 = 1 / 2 ^ 53 := by norm_num [slack]
  have often : slack ^ 12 - 1 ≤ 13 / 2 ^ 53 := by norm_num [slack]
  have positive : 0 < |a - b| := abs_pos.mpr (sub_ne_zero.mpr different)
  have first := left.distance
  have second := right.distance.trans (mul_le_mul_of_nonneg_right often (abs_nonneg b))
  have reach : |a| ≤ |b| + |a - b| := by
    have := abs_add_le b (a - b)
    rwa [add_sub_cancel] at this
  rw [once] at first
  calc |(x.value - y.value) - (a - b)| = |(x.value - a) - (y.value - b)| := by
        congr 1
        ring
    _ ≤ |x.value - a| + |y.value - b| := abs_sub _ _
    _ < |a - b| := by linarith

/-- Numbers whose distance is more than what the roundings may add up to are not confused. -/
theorem Meets.compare_eq (left : Meets 1 x a) (right : Meets 12 y b) (different : a ≠ b)
    (apart : |b| ≤ 2 ^ 49 * |a - b|) : compare x.value y.value = compare a b := by
  have distance := abs_lt.mp (left.distance_lt right different apart)
  obtain less | greater := lt_or_gt_of_ne different
  · rw [abs_of_neg (sub_neg.mpr less)] at distance
    rw [compare_lt_iff_lt.mpr less, compare_lt_iff_lt]
    linarith [distance.2]
  · rw [abs_of_pos (sub_pos.mpr greater)] at distance
    rw [compare_gt_iff_gt.mpr greater, compare_gt_iff_gt]
    linarith [distance.1]

/-- The mantissa of a whole amount. -/
theorem mantissa_of_whole {z : Int} {d : Decimal} (whole : (z : ℚ) = d.amount) :
    z.natAbs * Nat.pow 10 d.scale = d.mantissa ∧ decide (z < 0) = d.negative := by
  have scaled : z * 10 ^ d.scale = d.signedMantissa := by
    rw [Decimal.amount, eq_div_iff (Decimal.ten_pow_ne_zero d.scale)] at whole
    exact_mod_cast whole
  have positive : (0 : Int) < 10 ^ d.scale := by positivity
  constructor
  · have := congrArg Int.natAbs scaled
    simpa [Int.natAbs_mul, Int.natAbs_pow, Decimal.signedMantissa, apply_ite Int.natAbs] using this
  · have nonzero := d.negative_zero
    unfold Decimal.signedMantissa at scaled
    cases negative : d.negative with
    | false =>
      rw [negative, if_neg Bool.false_ne_true] at scaled
      have above : 0 ≤ z * 10 ^ d.scale := by omega
      simpa using nonneg_of_mul_nonneg_left above positive
    | true =>
      rw [negative, if_pos rfl] at scaled
      have below : z * 10 ^ d.scale < 0 := by
        have something : d.mantissa ≠ 0 := fun nothing => by simp [nonzero nothing] at negative
        omega
      exact decide_eq_true (neg_of_mul_neg_left below positive.le)

/-- A whole amount is rounded as the integer it is. -/
theorem ofInt_eq_toBinary64 {z : Int} {d : Decimal} (whole : (z : ℚ) = d.amount) :
    ofInt z = d.toBinary64 := by
  obtain ⟨magnitude, sign⟩ := mantissa_of_whole whole
  have one : 0 < Nat.pow 10 d.scale := Nat.pow_pos (by decide)
  have rest : d.mantissa % Nat.pow 10 d.scale = 0 := by rw [← magnitude, Nat.mul_mod_left]
  rw [Decimal.toBinary64_of_whole rest, ofInt, sign, ← magnitude, Nat.mul_div_cancel _ one]

theorem value_ofInt (z : Int) : (ofInt z).value =
    if z < 0 then -(ofRatio false z.natAbs 1).size else (ofRatio false z.natAbs 1).size := by
  rw [ofInt, ofRatio_sign, value_withSign]
  by_cases below : z < 0 <;> simp [below]

/-- A greater integer is not rounded to a smaller number. -/
theorem value_ofInt_mono {m n : Int} (more : m ≤ n) (left : m.natAbs ≤ 10 ^ 30)
    (right : n.natAbs ≤ 10 ^ 30) : (ofInt m).value ≤ (ofInt n).value := by
  have nonneg := size_nonneg (ofRatio false m.natAbs 1)
  have nonneg' := size_nonneg (ofRatio false n.natAbs 1)
  rw [value_ofInt, value_ofInt]
  by_cases below : m < 0 <;> by_cases below' : n < 0
  · have magnitudes := size_ofNat_mono (by omega : n.natAbs ≤ m.natAbs) left
    rw [if_pos below, if_pos below']
    linarith
  · rw [if_pos below, if_neg below']
    linarith
  · omega
  · have magnitudes := size_ofNat_mono (by omega : m.natAbs ≤ n.natAbs) right
    rw [if_neg below, if_neg below']
    exact magnitudes

/-- Rounding may make an integer and a whole amount equal, but never turns their order. -/
theorem compare_ofInt_whole {n : Int64} {z : Int} {d : Decimal} (whole : (z : ℚ) = d.amount) :
    compare (ofInt n.toInt).value d.toBinary64.value = .eq ∨
      compare (ofInt n.toInt).value d.toBinary64.value = compare (n.toInt : ℚ) d.amount := by
  have left : n.toInt.natAbs ≤ 10 ^ 30 := by
    have := n.toInt_lt
    have := n.le_toInt
    omega
  have right : z.natAbs ≤ 10 ^ 30 := by
    have one : 0 < Nat.pow 10 d.scale := Nat.pow_pos (by decide)
    have fits := d.mantissa_lt
    have less := Nat.le_mul_of_pos_right z.natAbs one
    rw [(mantissa_of_whole whole).1] at less
    unfold Decimal.mantissaLimit at fits
    omega
  rw [← ofInt_eq_toBinary64 whole, ← whole]
  obtain less | same | greater := lt_trichotomy n.toInt z
  · have order := value_ofInt_mono less.le left right
    rw [compare_lt_iff_lt.mpr (Int.cast_lt.mpr less), compare_lt_iff_lt, compare_eq_iff_eq]
    exact order.eq_or_lt
  · rw [same, Std.compare_self]
    exact .inl rfl
  · have order := value_ofInt_mono greater.le right left
    rw [compare_gt_iff_gt.mpr (Int.cast_lt.mpr greater), compare_gt_iff_gt, compare_eq_iff_eq]
    exact order.eq_or_lt.imp Eq.symm id

end Binary64

namespace Value

/-- The integer is equal to the amount, or their distance is not too small a part of the amount. -/
def ToldApart (n : Int64) (d : Decimal) : Prop :=
  (n.toInt : ℚ) = d.amount ∨ |d.amount| ≤ 2 ^ 49 * |(n.toInt : ℚ) - d.amount|

/-- An amount of few digits is told apart from every integer. -/
theorem toldApart_of_mantissa_le {d : Decimal} (small : d.mantissa ≤ 2 ^ 49) (n : Int64) :
    ToldApart n d := by
  by_cases same : (n.toInt : ℚ) = d.amount
  · exact .inl same
  · right
    have scale : (0 : ℚ) < 10 ^ d.scale := by positivity
    have size : |d.signedMantissa| = d.mantissa := by
      unfold Decimal.signedMantissa
      split <;> simp
    have different : n.toInt * 10 ^ d.scale - d.signedMantissa ≠ 0 := by
      rw [Decimal.amount, eq_div_iff scale.ne'] at same
      exact sub_ne_zero.mpr (by exact_mod_cast same)
    have step : (1 : ℚ) ≤ |(n.toInt : ℚ) * 10 ^ d.scale - d.signedMantissa| := by
      exact_mod_cast Int.one_le_abs different
    have digits : |(d.signedMantissa : ℚ)| ≤ 2 ^ 49 := by
      rw [← Int.cast_abs, size]
      exact_mod_cast small
    have distance : (n.toInt : ℚ) - d.amount =
        (n.toInt * 10 ^ d.scale - d.signedMantissa) / 10 ^ d.scale := by
      rw [Decimal.amount, sub_div, mul_div_cancel_right₀ _ scale.ne']
    rw [distance, Decimal.amount, abs_div, abs_div, abs_of_pos scale, ← mul_div_assoc]
    gcongr
    linarith

/-- An integer or an amount. -/
inductive ExactNumber : Value → Prop
  | int (n : Int64) : ExactNumber (.int n)
  | money (d : Decimal) : ExactNumber (.money d)

theorem compare?_int_money (n : Int64) (d : Decimal) :
    (int n).compare? (money d) = some (compare (Binary64.ofInt n.toInt).value d.toBinary64.value) :=
  Binary64.compare?_of_finite (Binary64.meets_ofInt n).finite (Binary64.meets_toBinary64 d).finite

/-- The order of an amount and an integer is that of the integer and the amount reversed. -/
theorem compare?_money_int (n : Int64) (d : Decimal) :
    (money d).compare? (int n) =
      some (compare (Binary64.ofInt n.toInt).value d.toBinary64.value).swap := by
  have ordered : (money d).compare? (int n) =
      some (compare d.toBinary64.value (Binary64.ofInt n.toInt).value) :=
    Binary64.compare?_of_finite (Binary64.meets_toBinary64 d).finite (Binary64.meets_ofInt n).finite
  have turned : compare d.toBinary64.value (Binary64.ofInt n.toInt).value =
      (compare (Binary64.ofInt n.toInt).value d.toBinary64.value).swap :=
    Std.OrientedCmp.eq_swap
  rw [ordered, turned]

theorem compare_of_toldApart {n : Int64} {d : Decimal} (apart : ToldApart n d) :
    compare (Binary64.ofInt n.toInt).value d.toBinary64.value = compare (n.toInt : ℚ) d.amount := by
  by_cases same : (n.toInt : ℚ) = d.amount
  · rw [Binary64.ofInt_eq_toBinary64 same, same, Std.compare_self, Std.compare_self]
  · exact (Binary64.meets_ofInt n).compare_eq (Binary64.meets_toBinary64 d) same
      (apart.resolve_left same)

/-- Integers and amounts of which each two are told apart are ordered by the numbers they are. -/
theorem compare?_eq_rank_of_toldApart {P : Value → Prop} (kinds : ∀ v, P v → v.ExactNumber)
    (apart : ∀ n d, P (.int n) → P (.money d) → ToldApart n d) {v w : Value} (left : P v)
    (right : P w) : v.compare? w = some (compare v.rank w.rank) := by
  cases kinds v left with
  | int n =>
    cases kinds w right with
    | int m => exact @compare?_eq_rank (.int n) (.int m) .integer (by decide) (by decide) rfl rfl
    | money d =>
      rw [compare?_int_money, compare_of_toldApart (apart n d left right), rank, rank,
        compare_single]
  | money d =>
    cases kinds w right with
    | int n =>
      have turned : compare d.amount n.toInt = (compare (n.toInt : ℚ) d.amount).swap :=
        Std.OrientedCmp.eq_swap
      rw [compare?_money_int, compare_of_toldApart (apart n d right left), rank, rank,
        compare_single, turned]
    | money e => exact @compare?_eq_rank (.money d) (.money e) .money (by decide) (by decide) rfl rfl

/-- Integers and amounts of which each two are told apart are in a total preorder. The order of any
integer and any amount does not depend on which comes first; it is the order of the two numbers if
they are told apart, which an amount of few digits always is. A whole amount may tie with an integer
but is never put on its wrong side. -/
theorem compare?_mixture {P : Value → Prop} (kinds : ∀ v, P v → v.ExactNumber)
    (apart : ∀ n d, P (.int n) → P (.money d) → ToldApart n d) :
    PreordersOn (fun v w : Value => (v.compare? w).getD .eq) P ∧
    ∀ n d, ∃ order, (int n).compare? (money d) = some order ∧
      (money d).compare? (int n) = some order.swap ∧
      (ToldApart n d → order = compare (n.toInt : ℚ) d.amount) ∧
      (d.mantissa ≤ 2 ^ 49 → ToldApart n d) ∧
      ((∃ z : Int, z = d.amount) → order = .eq ∨ order = compare (n.toInt : ℚ) d.amount) := by
  constructor
  · refine PreordersOn.of_rank rank fun left right => ?_
    rw [compare?_eq_rank_of_toldApart kinds apart left right, Option.getD_some]
  · intro n d
    refine ⟨_, compare?_int_money n d, compare?_money_int n d, compare_of_toldApart,
      fun small => toldApart_of_mantissa_le small n, ?_⟩
    rintro ⟨z, whole⟩
    exact Binary64.compare_ofInt_whole whole

/-- Seven and a half, with three places. -/
def sevenAndHalf : Decimal := ⟨false, 7500, 3, by decide, by decide, by decide⟩

/-- Seven, seven and a half and eight are far enough from each other. -/
theorem compare?_mixture_sevens :
    PreordersOn (fun v w : Value => (v.compare? w).getD .eq)
      (fun v => v ∈ [int 7, money sevenAndHalf, int 8]) ∧
    (int 7).compare? (money sevenAndHalf) = some .lt ∧
    (money sevenAndHalf).compare? (int 8) = some .lt := by
  have amount : sevenAndHalf.amount = 15 / 2 := by
    norm_num [Decimal.amount, Decimal.signedMantissa, sevenAndHalf]
  have seven : ((7 : Int64).toInt : ℚ) = 7 := rfl
  have eight : ((8 : Int64).toInt : ℚ) = 8 := rfl
  have kinds : ∀ v, v ∈ [int 7, money sevenAndHalf, int 8] → v.ExactNumber := by
    intro v member
    simp only [List.mem_cons, List.not_mem_nil, or_false] at member
    obtain rfl | rfl | rfl := member
    · exact .int 7
    · exact .money sevenAndHalf
    · exact .int 8
  have apart : ∀ n d, int n ∈ [int 7, money sevenAndHalf, int 8] →
      money d ∈ [int 7, money sevenAndHalf, int 8] → ToldApart n d := by
    intro n d _ member
    simp only [List.mem_cons, List.not_mem_nil, or_false, money.injEq, reduceCtorEq, false_or]
      at member
    rw [member]
    exact toldApart_of_mantissa_le (by decide) n
  obtain ⟨preorder, pairs⟩ := compare?_mixture kinds apart
  refine ⟨preorder, ?_, ?_⟩
  · obtain ⟨order, ordered, -, exactly, few, -⟩ := pairs 7 sevenAndHalf
    rw [ordered, exactly (few (by decide)), seven, amount, compare_lt_iff_lt.mpr (by norm_num)]
  · obtain ⟨order, -, ordered, exactly, few, -⟩ := pairs 8 sevenAndHalf
    rw [ordered, exactly (few (by decide)), eight, amount, compare_gt_iff_gt.mpr (by norm_num)]
    rfl

/-- Two integers that differ both tie with one amount, and an integer stands behind an amount that
is more than a half above it. -/
theorem compare?_mixture_unordered :
    let limit : Decimal := ⟨false, 9007199254740992, 0, by decide, by decide, by decide⟩
    let more : Decimal := ⟨false, 11310067681338923936772, 4, by decide, by decide, by decide⟩
    (int 9007199254740993).compare? (money limit) = some .eq ∧
    (money limit).compare? (int 9007199254740992) = some .eq ∧
    (int 9007199254740993).compare? (int 9007199254740992) = some .gt ∧
    (int 1131006768133892393).compare? (money more) = some .gt ∧
    ((1131006768133892393 : Int64).toInt : ℚ) < more.amount := by
  intro limit more
  refine ⟨by decide +kernel, by decide +kernel, by decide +kernel, by decide +kernel, ?_⟩
  have integer : ((1131006768133892393 : Int64).toInt : ℚ) = 1131006768133892393 := rfl
  rw [integer]
  norm_num [Decimal.amount, Decimal.signedMantissa, more]

end Value

end SqlScribe

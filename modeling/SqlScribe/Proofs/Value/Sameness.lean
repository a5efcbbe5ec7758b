import SqlScribe.Proofs.Number.Amount
import SqlScribe.Writer.Staging

/-!
# Sameness of values

Two values of which one is exact, that is no floating-point number, are the same if and only if
they count as one in a key. A value that is the same as a second one is the same as every third one
that the second one is the same as.
-/

namespace SqlScribe

/-- Not-a-number equals nothing, so the equality of numbers can be chained. -/
theorem Binary64.equals_trans {x y z : Binary64} (first : x.equals y = true)
    (second : y.equals z = true) : x.equals z = true := by
  simp only [equals, compare?, beq_iff_eq, Option.ite_none_left_eq_some, Option.some.injEq,
    Std.LawfulEqCmp.compare_eq_iff_eq, Bool.or_eq_true, not_or] at *
  exact ⟨⟨first.1.1, second.1.2⟩, first.2.trans second.2⟩

namespace Binary64

variable {x y : Binary64}

theorem equals_iff :
    x.equals y = true ↔ x.isNaN = false ∧ y.isNaN = false ∧ x.rank = y.rank := by
  simp [equals, compare?, Std.LawfulEqCmp.compare_eq_iff_eq, and_assoc]

theorem equals_symm (h : x.equals y = true) : y.equals x = true := by
  rw [equals_iff] at h ⊢
  exact ⟨h.2.1, h.1, h.2.2.symm⟩

/-- Off zero a number is told by its rank. -/
theorem eq_of_rank_eq (same : x.rank = y.rank) (off : y.rank ≠ 0) : x = y := by
  obtain ⟨a⟩ := x
  obtain ⟨b⟩ := y
  have low := a.toNat_lt
  have low' := b.toNat_lt
  simp only [rank, isNegative, magnitudeBits, signBit, decide_eq_true_eq] at same off
  have bits : a.toNat = b.toNat := by omega
  rw [UInt64.toNat_inj.mp bits]

/-- A number equals the numbers that it is the same as once both zeros are taken for one. -/
theorem equals_iff_ite_zero_eq (number : y.equals y = true) :
    x.equals y = true ↔
      (if x.equals .zero then .zero else x) = if y.equals .zero then .zero else y := by
  by_cases left : x.equals .zero = true
  · by_cases right : y.equals .zero = true
    · simpa [left, right] using equals_trans left (equals_symm right)
    · rw [if_pos left, if_neg right]
      constructor
      · intro same
        exact absurd (equals_trans (equals_symm same) left) right
      · rintro rfl
        exact absurd number right
  · by_cases right : y.equals .zero = true
    · rw [if_neg left, if_pos right]
      constructor
      · intro same
        exact absurd (equals_trans same right) left
      · rintro rfl
        exact absurd rfl left
    · rw [if_neg left, if_neg right]
      constructor
      · intro same
        obtain ⟨-, isNumber, ranks⟩ := equals_iff.mp same
        exact eq_of_rank_eq ranks fun zero => right (equals_iff.mpr ⟨isNumber, rfl, zero⟩)
      · rintro rfl
        exact number

end Binary64

namespace Value

theorem isNull_iff {v : Value} : v.isNull = true ↔ v = .null := by
  cases v <;> simp [isNull]

/-- A floating-point number need not equal itself; all other values do. -/
def isExact : Value → Bool
  | float _ => false
  | _ => true

theorem equals_iff_keyImage_eq {v w : Value} (exact : w.isExact = true) :
    v.equals w = true ↔ v.keyImage = w.keyImage := by
  cases w with
  | float _ => cases exact
  | money b =>
    cases v with
    | money a => simpa [equals, keyImage] using Decimal.equals_iff_normalize_eq a b
    | _ => simp [equals, keyImage]
  | _ => cases v <;> simp [equals, keyImage]

/-- Only not-a-number counts as one in a key with values that it does not equal. -/
theorem equals_iff_keyImage_eq_of_equals_self {v w : Value} (itself : w.equals w = true) :
    v.equals w = true ↔ v.keyImage = w.keyImage := by
  cases w with
  | float y =>
    cases v with
    | float x => simpa [equals, keyImage] using Binary64.equals_iff_ite_zero_eq itself
    | _ => simp [equals, keyImage]
  | _ => exact equals_iff_keyImage_eq rfl

theorem isExact_eq_of_equals {v w : Value} (h : v.equals w = true) : v.isExact = w.isExact := by
  cases v <;> cases w <;> first | rfl | cases h

theorem equals_trans {u v w : Value} (first : u.equals v = true) (second : v.equals w = true) :
    u.equals w = true := by
  have same := isExact_eq_of_equals first
  have same' := isExact_eq_of_equals second
  cases exact : w.isExact with
  | true =>
    rw [equals_iff_keyImage_eq exact] at second ⊢
    rw [equals_iff_keyImage_eq (same'.trans exact)] at first
    exact first.trans second
  | false =>
    rw [exact] at same'
    rw [same'] at same
    cases u <;> cases same
    cases v <;> cases same'
    cases w <;> cases exact
    exact Binary64.equals_trans first second

end Value

end SqlScribe

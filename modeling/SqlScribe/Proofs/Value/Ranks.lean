import Mathlib.Order.Compare
import SqlScribe.Proofs.Table.Sorting
import SqlScribe.Proofs.Value.Ordering

/-!
# Ranks

Values that one column holds are ordered by the numbers they stand for, texts and bytes by the
numbers of their units, one after the other. So the order of these values is a total preorder, with
NULL at the bottom.
-/

namespace SqlScribe

theorem compare_map {α β : Type} [Ord α] [Ord β] {f : α → β}
    (same : ∀ a b, compare (f a) (f b) = compare a b) (xs ys : List α) :
    compare (xs.map f) (ys.map f) = compare xs ys := by
  induction xs generalizing ys with
  | nil => cases ys <;> rfl
  | cons x xs ih =>
    cases ys with
    | nil => rfl
    | cons y ys =>
      rw [List.map_cons, List.map_cons, List.compare_cons_cons, List.compare_cons_cons, same, ih]

theorem compare_intCast (m n : Int) : compare (m : ℚ) n = compare m n := by
  rw [← cmp_eq_compare, ← cmp_eq_compare]
  exact Int.cast_strictMono.cmp_map_eq m n

theorem compare_natCast (m n : Nat) : compare (m : ℚ) n = compare m n := by
  rw [← cmp_eq_compare, ← cmp_eq_compare]
  exact Nat.strictMono_cast.cmp_map_eq m n

/-- Decimals are compared by their amounts. -/
theorem Decimal.compare_eq (a b : Decimal) : a.compare b = Ord.compare a.amount b.amount := by
  have left : (0 : ℚ) < 10 ^ a.scale := by positivity
  have right : (0 : ℚ) < 10 ^ b.scale := by positivity
  have scaled : StrictMono fun x : ℚ => x * (10 ^ a.scale * 10 ^ b.scale) :=
    fun x y less => mul_lt_mul_of_pos_right less (mul_pos left right)
  rw [compare, ← compare_intCast, ← cmp_eq_compare, ← cmp_eq_compare, ← scaled.cmp_map_eq a.amount]
  congr 1 <;> simp only [amount, Nat.pow_eq] <;> push_cast <;> field_simp

namespace Value

/-- What a value is ordered by among the values of its column; NULL by nothing. -/
def rank : Value → Option (List ℚ)
  | null => none
  | bool b => some [(b.toNat : ℚ)]
  | int n => some [(n.toInt : ℚ)]
  | float x => some [(x.rank : ℚ)]
  | money d => some [d.amount]
  | string s => some (s.toList.map fun c => (c.toNat : ℚ))
  | date d => some [(d.rank : ℚ)]
  | time t => some [(t.rank : ℚ)]
  | dateTime m => some [(m.rank : ℚ)]
  | guid g => some [(g.rank : ℚ)]
  | binary bytes => some (bytes.map fun b => (b.toNat : ℚ))

theorem compare_single (x y : ℚ) : compare (some [x]) (some [y]) = compare x y := by
  change compare [x] [y] = _
  rw [List.compare_cons_cons, Std.compare_self, Ordering.then_eq]

/-- Two values of one column that holds no floating-point numbers are ordered by their ranks. -/
theorem compare?_eq_rank {v w : Value} {ty : ColumnType} (known : ty ≠ .unknown)
    (exact : ty ≠ .float) (left : v.belongs ty = true) (right : w.belongs ty = true) :
    v.compare? w = some (compare v.rank w.rank) := by
  cases paired_of_belongs known exact left right with
  | null_left => cases w <;> rfl
  | null_right => cases v <;> rfl
  | bool a b => rw [compare?, rank, rank, compare_single, compare_natCast]
  | int m n => rw [compare?, rank, rank, compare_single, compare_intCast]
  | money a b => rw [compare?, rank, rank, compare_single, Decimal.compare_eq]
  | string s t =>
    have casts := compare_map compare_natCast (s.toList.map Char.toNat) (t.toList.map Char.toNat)
    rw [compare?, compareTexts, ← casts, List.map_map, List.map_map]
    rfl
  | date d e => rw [compare?, rank, rank, compare_single, compare_intCast]
  | time t u => rw [compare?, rank, rank, compare_single, compare_natCast]
  | dateTime m n => rw [compare?, rank, rank, compare_single, compare_intCast]
  | guid g h => rw [compare?, rank, rank, compare_single, compare_natCast]
  | binary a b =>
    have casts := compare_map compare_natCast (a.map UInt8.toNat) (b.map UInt8.toNat)
    rw [compare?, compareBytes, ← casts, List.map_map, List.map_map]
    rfl

end Value

end SqlScribe

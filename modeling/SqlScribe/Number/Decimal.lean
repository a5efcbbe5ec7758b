/-!
# Exact decimal numbers

Money is held exactly: a whole mantissa below `2 ^ 96`, at most 28 places after the point, and a
sign, which is never negative for zero. The places are kept as written, so `1.5` and `1.50` are two
numbers of equal amount.
-/

namespace SqlScribe

/-- What mantissas stay below: `2 ^ 96`. -/
abbrev Decimal.mantissaLimit : Nat := 0x1000000000000000000000000

/-- The amount `mantissa / 10 ^ scale` with a sign. -/
structure Decimal where
  negative : Bool
  mantissa : Nat
  scale : Nat
  mantissa_lt : mantissa < Decimal.mantissaLimit
  scale_le : scale ≤ 28
  negative_zero : mantissa = 0 → negative = false
deriving DecidableEq

namespace Decimal

/-- The number with these parts, if they are in range; zero takes no sign. -/
def of? (negative : Bool) (mantissa scale : Nat) : Option Decimal :=
  if h : mantissa < mantissaLimit ∧ scale ≤ 28 then
    some ⟨negative && mantissa != 0, mantissa, scale, h.1, h.2, by simp +contextual⟩
  else none

def zero : Decimal := ⟨false, 0, 0, by decide, by decide, by decide⟩

/-- A 64-bit integer as an amount. -/
def ofInt64 (n : Int64) : Decimal where
  negative := n.toInt < 0
  mantissa := n.toInt.natAbs
  scale := 0
  mantissa_lt := by
    have := n.toInt_lt
    have := n.le_toInt
    unfold mantissaLimit
    omega
  scale_le := by decide
  negative_zero := by
    simp only [decide_eq_false_iff_not]
    omega

/-- The amount in units of `10 ^ -scale`. -/
def signedMantissa (d : Decimal) : Int := if d.negative then -(d.mantissa : Int) else d.mantissa

/-- The order of two amounts. -/
def compare (a b : Decimal) : Ordering :=
  Ord.compare (a.signedMantissa * (Nat.pow 10 b.scale : Nat))
    (b.signedMantissa * (Nat.pow 10 a.scale : Nat))

/-- Two numbers stand for the same amount. -/
def equals (a b : Decimal) : Bool := a.compare b == .eq

/-- The amount without its sign. -/
def abs (d : Decimal) : Decimal := { d with negative := false, negative_zero := fun _ => rfl }

/-- The exact amount, if it is a whole number. -/
def toInt? (d : Decimal) : Option Int :=
  if d.mantissa % Nat.pow 10 d.scale = 0 then
    let whole : Int := (d.mantissa / Nat.pow 10 d.scale : Nat)
    some (if d.negative then -whole else whole)
  else none

/-- Takes up to `places` zeros off the end of a mantissa; what is left of `places` comes with it. -/
def dropZeros (mantissa : Nat) : Nat → Nat × Nat
  | 0 => (mantissa, 0)
  | places + 1 =>
    if mantissa % 10 = 0 then dropZeros (mantissa / 10) places else (mantissa, places + 1)

theorem dropZeros_fst_le (mantissa places : Nat) : (dropZeros mantissa places).1 ≤ mantissa := by
  induction places generalizing mantissa with
  | zero => simp [dropZeros]
  | succ places ih =>
    simp only [dropZeros]
    split
    · exact Nat.le_trans (ih _) (Nat.div_le_self _ _)
    · exact Nat.le_refl _

theorem dropZeros_snd_le (mantissa places : Nat) : (dropZeros mantissa places).2 ≤ places := by
  induction places generalizing mantissa with
  | zero => simp [dropZeros]
  | succ places ih =>
    simp only [dropZeros]
    split
    · exact Nat.le_trans (ih _) (Nat.le_succ _)
    · exact Nat.le_refl _

theorem dropZeros_fst_ne_zero (mantissa places : Nat) (h : mantissa ≠ 0) :
    (dropZeros mantissa places).1 ≠ 0 := by
  induction places generalizing mantissa with
  | zero => simpa [dropZeros] using h
  | succ places ih =>
    simp only [dropZeros]
    split
    · exact ih _ (by omega)
    · exact h

/-- The same amount with the fewest places. -/
def normalize (d : Decimal) : Decimal :=
  if h : d.mantissa = 0 then zero
  else
    { negative := d.negative
      mantissa := (dropZeros d.mantissa d.scale).1
      scale := (dropZeros d.mantissa d.scale).2
      mantissa_lt := Nat.lt_of_le_of_lt (dropZeros_fst_le _ _) d.mantissa_lt
      scale_le := Nat.le_trans (dropZeros_snd_le _ _) d.scale_le
      negative_zero := fun zero => absurd zero (dropZeros_fst_ne_zero _ _ h) }

end Decimal

end SqlScribe

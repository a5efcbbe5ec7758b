/-!
# Double-precision numbers

A number of the binary64 format is held as its 64 bits and computed with exactly: every operation
works on the fraction that the bits stand for and rounds once, to the nearest number of the format
and a tie to the even one. No arithmetic of the machine takes part.
-/

namespace SqlScribe

/-- A double-precision number. -/
structure Binary64 where
  bits : UInt64
deriving DecidableEq

namespace Binary64

/-- The sign bit. -/
abbrev signBit : Nat := 0x8000000000000000

/-- The lowest bit above those of the fraction. -/
abbrev fractionUnit : Nat := 0x10000000000000

/-- The bits below the sign, which grow with the magnitude. -/
def magnitudeBits (x : Binary64) : Nat := x.bits.toNat % signBit

/-- The sign bit is set. -/
def isNegative (x : Binary64) : Bool := signBit ≤ x.bits.toNat

/-- The magnitude bits of infinity; above it lie the forms of not-a-number. -/
def infinityBits : Nat := 2047 * fractionUnit

def isNaN (x : Binary64) : Bool := infinityBits < x.magnitudeBits

def isFinite (x : Binary64) : Bool := x.magnitudeBits < infinityBits

/-- The number with given magnitude bits and sign. -/
def ofMagnitudeBits (negative : Bool) (magnitude : Nat) : Binary64 :=
  ⟨.ofNat (if negative then signBit + magnitude else magnitude)⟩

def zero : Binary64 := ofMagnitudeBits false 0

def infinity (negative : Bool) : Binary64 := ofMagnitudeBits negative infinityBits

def nan (negative : Bool) : Binary64 := ofMagnitudeBits negative (infinityBits + fractionUnit / 2)

/-- The number without its sign. -/
def abs (x : Binary64) : Binary64 := ofMagnitudeBits false x.magnitudeBits

/-- The whole number `s` such that a finite number has the magnitude `s * 2 ^ exponent`. -/
def significand (x : Binary64) : Nat :=
  let fraction := x.magnitudeBits % fractionUnit
  if x.magnitudeBits / fractionUnit = 0 then fraction else fractionUnit + fraction

/-- The power of two that goes with `significand`. -/
def exponent (x : Binary64) : Int :=
  let field : Nat := x.magnitudeBits / fractionUnit
  if field = 0 then -1074 else (field : Int) - 1075

/-- The magnitude of a finite number as numerator and denominator. -/
def ratio (x : Binary64) : Nat × Nat :=
  if 0 ≤ x.exponent then (x.significand * Nat.pow 2 x.exponent.toNat, 1)
  else (x.significand, Nat.pow 2 (-x.exponent).toNat)

/-- A fraction rounded to the nearest whole number, a tie to the even one. -/
def roundHalfEven (num den : Nat) : Nat :=
  let whole := num / den
  let twice := 2 * (num % den)
  if twice < den then whole
  else if den < twice then whole + 1
  else whole + whole % 2

/-- A positive fraction as a multiple of `2 ^ power`. -/
def scaleDown (num den : Nat) (power : Int) : Nat × Nat :=
  if 0 ≤ power then (num, den * Nat.pow 2 power.toNat) else (num * Nat.pow 2 (-power).toNat, den)

/-- The largest power of two that is at most a positive fraction. -/
def binaryMagnitude (num den : Nat) : Int :=
  let guess := (num.log2 : Int) - den.log2
  let (n, d) := scaleDown num den guess
  if d ≤ n then guess else guess - 1

/-- The number nearest to a fraction; past the largest finite number it is infinity. -/
def ofRatio (negative : Bool) (num den : Nat) : Binary64 :=
  if num = 0 then ofMagnitudeBits negative 0
  else
    let power := max (binaryMagnitude num den - 52) (-1074)
    let (n, d) := scaleDown num den power
    ofMagnitudeBits negative
      (min ((power + 1074).toNat * fractionUnit + roundHalfEven n d) infinityBits)

/-- The number nearest to a whole number. -/
def ofInt (n : Int) : Binary64 := ofRatio (n < 0) n.natAbs 1

/-- Where the number stands among all numbers; both zeros stand at the same place. -/
def rank (x : Binary64) : Int :=
  if x.isNegative then -(x.magnitudeBits : Int) else x.magnitudeBits

/-- The order of two numbers; not-a-number has none. -/
def compare? (x y : Binary64) : Option Ordering :=
  if x.isNaN || y.isNaN then none else some (compare x.rank y.rank)

/-- Numerically equal: both zeros are, and not-a-number equals nothing. -/
def equals (x y : Binary64) : Bool := x.compare? y == some .eq

/-- The exact value, if it is a whole number. -/
def toInt? (x : Binary64) : Option Int :=
  if !x.isFinite then none
  else
    let (num, den) := x.ratio
    if num % den = 0 then
      some (if x.isNegative then -(num / den : Nat) else (num / den : Nat))
    else none

/-- The sum of two finite magnitudes. -/
def addMagnitudes (x y : Binary64) : Binary64 :=
  let (a, b) := x.ratio
  let (c, d) := y.ratio
  ofRatio false (a * d + c * b) (b * d)

/-- The product of two finite magnitudes. -/
def mulMagnitudes (x y : Binary64) : Binary64 :=
  let (a, b) := x.ratio
  let (c, d) := y.ratio
  ofRatio false (a * c) (b * d)

/-- The quotient of two finite magnitudes, the second not zero. -/
def divMagnitudes (x y : Binary64) : Binary64 :=
  let (a, b) := x.ratio
  let (c, d) := y.ratio
  ofRatio false (a * d) (b * c)

/-- A finite magnitude at the nearest whole number, a half going up. -/
def roundMagnitude (x : Binary64) : Binary64 :=
  let (num, den) := x.ratio
  ofRatio false ((2 * num + den) / (2 * den)) 1

/-- The magnitude under a given sign. -/
def withSign (negative : Bool) (x : Binary64) : Binary64 :=
  ofMagnitudeBits negative x.magnitudeBits

theorem compare?_self {x : Binary64} (h : x.isNaN = false) : x.compare? x = some .eq := by
  simp [compare?, h]

end Binary64

end SqlScribe

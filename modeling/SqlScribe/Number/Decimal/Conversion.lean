import SqlScribe.Number.Binary64
import SqlScribe.Number.Decimal

/-!
# Between decimal and double-precision numbers

The steps fix which of several neighbouring results comes out, so they are spelled out: a power of
two is a power of ten with as many factors five taken off or put on, which a mantissa of at most 96
bits absorbs; digits beyond the sixteenth are rounded away.
-/

namespace SqlScribe.Decimal

open Binary64 in
/-- The double-precision number for an amount. -/
def toBinary64 (d : Decimal) : Binary64 :=
  let whole := ofRatio false (d.mantissa / Nat.pow 10 d.scale) 1
  let unit := ofRatio false (Nat.pow 10 d.scale) 1
  let fraction := divMagnitudes (ofRatio false (d.mantissa % Nat.pow 10 d.scale) 1) unit
  let magnitude :=
    if fraction.magnitudeBits = 0 then whole
    else divMagnitudes (roundMagnitude (mulMagnitudes (addMagnitudes whole fraction) unit)) unit
  magnitude.withSign d.negative

/-- A mantissa with a power of ten. -/
structure Scaled where
  mantissa : Nat
  power : Int

/-- Multiplies by `5 ^ n`. An even mantissa is halved for ten times the power; an odd one takes the
factor itself as long as that fits. -/
def timesFives (x : Scaled) : Nat → Scaled
  | 0 => x
  | n + 1 =>
    if x.mantissa % 2 = 0 then timesFives ⟨x.mantissa / 2, x.power + 1⟩ n
    else if x.mantissa * 5 < mantissaLimit then timesFives ⟨x.mantissa * 5, x.power⟩ n
    else timesFives ⟨x.mantissa / 2, x.power + 1⟩ n

/-- Divides by `5 ^ n`. The mantissa is doubled for a tenth of the power as long as that fits; there
is no result if the value is certainly too large. -/
def overFives (x : Scaled) : Nat → Option Scaled
  | 0 => some x
  | n + 1 =>
    if x.mantissa * 2 < mantissaLimit then overFives ⟨x.mantissa * 2, x.power - 1⟩ n
    else if (n + 1 : Int) < 2 * x.power then none
    else overFives ⟨x.mantissa / 5, x.power⟩ n

/-- Writes out `n` positive powers of ten, if they fit. -/
def expandTens (mantissa : Nat) : Nat → Option Nat
  | 0 => some mantissa
  | n + 1 => if mantissa * 10 < mantissaLimit then expandTens (mantissa * 10) n else none

/-- The next mantissa with one place fewer, the place given up rounding it. -/
def dropPlace (mantissa : Nat) : Nat :=
  if 5 ≤ mantissa % 10 then mantissa / 10 + 1 else mantissa / 10

/-- Gives up `n` places; once nothing is left the places are gone as well. -/
def dropPlaces (mantissa places : Nat) : Nat → Nat × Nat
  | 0 => (mantissa, places)
  | n + 1 =>
    if mantissa / 10 = 0 then (0, 0) else dropPlaces (dropPlace mantissa) (places - 1) n

/-- Gives up places while the mantissa has more than 52 bits. -/
def dropNoise (mantissa : Nat) : Nat → Nat × Nat
  | 0 => (mantissa, 0)
  | places + 1 =>
    if 0x10000000000000 ≤ mantissa then dropNoise (dropPlace mantissa) places else (mantissa, places + 1)

/-- The amount nearest to a double-precision number within sixteen digits, in its shortest form. -/
def ofBinary64? (x : Binary64) : Option Decimal :=
  if !x.isFinite then none
  else if x.magnitudeBits = 0 then some zero
  else do
    let start : Scaled := ⟨x.significand, x.exponent⟩
    let traded ←
      if x.exponent < 0 then some (timesFives start (-x.exponent).toNat)
      else overFives start x.exponent.toNat
    let mantissa ← expandTens traded.mantissa traded.power.toNat
    let places := (-traded.power).toNat
    let (mantissa, places) := dropPlaces mantissa places (places - 28)
    let (mantissa, places) := dropNoise mantissa places
    let (mantissa, places) := dropZeros mantissa places
    (of? x.isNegative mantissa places).map normalize

end SqlScribe.Decimal

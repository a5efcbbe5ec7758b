import SqlScribe.Number.Binary64.Text
import SqlScribe.Number.Decimal

/-!
# Exact decimal numbers as text

Writing keeps every place. Reading keeps every place too, as long as the digits fit; the first one
that does not fit rounds the ones before it. An exponent may follow the digits.
-/

namespace SqlScribe.Decimal

open SqlScribe.Text

/-- The number with all its places. -/
def toChars (d : Decimal) : List Char :=
  let ds := paddedDigits (d.scale + 1) d.mantissa
  let whole := ds.take (ds.length - d.scale)
  let body := if d.scale = 0 then ds else whole ++ '.' :: ds.drop (ds.length - d.scale)
  if d.negative then '-' :: body else body

/-- The number as text. -/
def toText (d : Decimal) : String := .ofList d.toChars

/-- What has been read of a number. -/
structure Progress where
  mantissa : Nat
  scale : Nat
  pastPoint : Bool
  anyDigit : Bool

/-- The number read so far, with the next digit rounding it: from five on it goes up, and if that
does not fit, the last place is given up as well. -/
def roundOff (negative : Bool) (seen : Progress) (digit : Nat) : Option Decimal :=
  if digit < 5 then of? negative seen.mantissa seen.scale
  else if seen.mantissa + 1 < mantissaLimit then of? negative (seen.mantissa + 1) seen.scale
  else if seen.scale = 0 then none
  else of? negative ((seen.mantissa + 5) / 10) (seen.scale - 1)

/-- Reads the rest of an unsigned number. Digits, one point and, after the first digit, underscores
may stand in it. -/
def readFrom (negative : Bool) (seen : Progress) : List Char → Option Decimal
  | [] => if seen.anyDigit then of? negative seen.mantissa seen.scale else none
  | c :: rest =>
    if seen.pastPoint && 28 ≤ seen.scale then
      if c.isDigit then roundOff negative seen (c.toNat - 48)
      else if c == '_' || c == '.' then roundOff negative seen 0
      else none
    else if c.isDigit then
      let mantissa := seen.mantissa * 10 + (c.toNat - 48)
      if mantissa < mantissaLimit then
        let scale := if seen.pastPoint then seen.scale + 1 else 0
        readFrom negative ⟨mantissa, scale, seen.pastPoint, true⟩ rest
      else if seen.pastPoint then roundOff negative seen (c.toNat - 48)
      else none
    else if c == '.' && !seen.pastPoint then
      readFrom negative { seen with pastPoint := true } rest
    else if c == '_' && seen.anyDigit then readFrom negative seen rest
    else none

/-- Reads an amount without an exponent. -/
def ofChars? (cs : List Char) : Option Decimal :=
  let (negative, rest) := splitSign cs
  readFrom negative ⟨0, 0, false, false⟩ rest

/-- The amount times `10 ^ power`. A power within the places moves the point; a greater one gives a
whole number, and one above the greatest number of places is refused. -/
def shiftPoint (d : Decimal) (power : Int) : Option Decimal :=
  if power ≤ d.scale then of? d.negative d.mantissa ((d.scale : Int) - power).toNat
  else if 28 < power then none
  else of? d.negative (d.mantissa * Nat.pow 10 (power - d.scale).toNat) 0

/-- Reads an exponent: a minus sign or none, then a plus sign or none, then digits. -/
def readExponent? (cs : List Char) : Option Int :=
  let (negative, unsigned) :=
    match cs with
    | '-' :: rest => (true, rest)
    | rest => (false, rest)
  let ds :=
    match unsigned with
    | '+' :: rest => rest
    | rest => rest
  if ds.isEmpty || !ds.all Char.isDigit || 4294967295 < ofDigits ds then none
  else some (if negative then -(ofDigits ds : Int) else ofDigits ds)

/-- Reads an amount with an exponent. -/
def ofScientific? (cs : List Char) : Option Decimal :=
  let isMark (c : Char) : Bool := c == 'e' || c == 'E'
  match cs.dropWhile (!isMark ·) with
  | _ :: exponent => do
    let d ← ofChars? (cs.takeWhile (!isMark ·))
    shiftPoint d (← readExponent? exponent)
  | [] => none

/-- Reads an amount, with or without an exponent. -/
def ofText? (s : String) : Option Decimal :=
  (ofChars? s.toList).orElse fun _ => ofScientific? s.toList

end SqlScribe.Decimal

import SqlScribe.Number.Binary64
import SqlScribe.Text.Numeral

/-!
# Double-precision numbers as text

Writing with the fewest digits that read back, and reading with correct rounding.
-/

namespace SqlScribe.Binary64

open SqlScribe.Text

/-- The number nearest to `mantissa * 10 ^ power`. -/
def ofDecimal (negative : Bool) (mantissa : Nat) (power : Int) : Binary64 :=
  let size := ((digits mantissa).length : Int) + power
  if mantissa = 0 || size < -330 then ofMagnitudeBits negative 0
  else if 310 < size then infinity negative
  else if 0 ≤ power then ofRatio negative (mantissa * Nat.pow 10 power.toNat) 1
  else ofRatio negative mantissa (Nat.pow 10 (-power).toNat)

/-- The least `k` such that a positive fraction is below `10 ^ k`. -/
def decimalMagnitude (num den : Nat) : Int :=
  if den ≤ num then (digits (num / den)).length
  else
    let size := (digits (den / num)).length
    if num * Nat.pow 10 (size - 1) = den then 2 - (size : Int) else 1 - (size : Int)

/-- Decimal digits `mantissa` and their power of ten. -/
structure Decimals where
  mantissa : Nat
  power : Int
deriving DecidableEq

/-- Which of two decimals stands for the value halfway between them. -/
inductive Halfway
  | upper
  | even
deriving DecidableEq

/-- Whether the value halfway between a mantissa and the next one belongs to the lower one. -/
def Halfway.goesDown (mantissa : Nat) : Halfway → Bool
  | upper => false
  | even => mantissa % 2 == 0

/-- The two neighbours of a positive fraction among the multiples of `10 ^ power`, nearest first. -/
def neighbours (halfway : Halfway) (num den : Nat) (power : Int) : List Decimals :=
  let (n, d) :=
    if 0 ≤ power then (num, den * Nat.pow 10 power.toNat) else (num * Nat.pow 10 (-power).toNat, den)
  let low : Decimals := ⟨n / d, power⟩
  let high : Decimals := ⟨n / d + 1, power⟩
  let part := 2 * (n % d)
  if part < d || part == d && halfway.goesDown low.mantissa then [low, high] else [high, low]

/-- All digits of a finite magnitude. -/
def exactDecimals (x : Binary64) : Decimals :=
  if 0 ≤ x.exponent then ⟨x.significand * Nat.pow 2 x.exponent.toNat, 0⟩
  else ⟨x.significand * Nat.pow 5 (-x.exponent).toNat, x.exponent⟩

/-- The decimals read back as the magnitude of `x`. -/
def readsBack (x : Binary64) (d : Decimals) : Bool :=
  ofDecimal false d.mantissa d.power == x.abs

/-- The same value without zeros at the end of the mantissa. -/
def Decimals.stripped (d : Decimals) : Decimals :=
  let zeros := ((digits d.mantissa).reverse.takeWhile (· == '0')).length
  ⟨d.mantissa / Nat.pow 10 zeros, d.power + zeros⟩

/-- The fewest digits that read back as the magnitude of a finite number, and of those the ones
nearest to it. Seventeen always suffice; the exact digits stand behind them. -/
def shortest (halfway : Halfway) (x : Binary64) : Decimals :=
  let (num, den) := x.ratio
  let size := decimalMagnitude num den
  let candidates := (List.range 17).flatMap fun n =>
    neighbours halfway num den (size - (n + 1 : Nat))
  ((candidates.find? x.readsBack).getD x.exactDecimals).stripped

/-- The digits of a number without an exponent, `point` of them before the decimal point. -/
def positional (ds : List Char) (point : Int) : List Char :=
  if point ≤ 0 then '0' :: '.' :: (List.replicate (-point).toNat '0' ++ ds)
  else if ds.length ≤ point.toNat then ds ++ List.replicate (point.toNat - ds.length) '0'
  else ds.take point.toNat ++ '.' :: ds.drop point.toNat

def unsignedText (x : Binary64) : List Char :=
  if x.magnitudeBits = 0 then ['0']
  else
    let d := x.shortest .upper
    let ds := digits d.mantissa
    positional ds (ds.length + d.power)

/-- The number as plain text: never an exponent, and no point on a whole number. Halfway between
two decimals the upper one is written. -/
def toText (x : Binary64) : String :=
  if x.isNaN then "NaN"
  else
    let body := if x.isFinite then unsignedText x else ['i', 'n', 'f']
    .ofList (if x.isNegative then '-' :: body else body)

/-- The number as a document writes it: `.0` on a whole number, and an exponent from `1e16` up and
below `1e-5`. Halfway between two decimals the one with an even last digit is written. -/
def toDocumentText (x : Binary64) : String :=
  let body :=
    if x.magnitudeBits = 0 then ['0', '.', '0']
    else
      let d := x.shortest .even
      let ds := digits d.mantissa
      let point := (ds.length : Int) + d.power
      if -5 < point && point ≤ 16 then
        let text := positional ds point
        if text.contains '.' then text else text ++ ['.', '0']
      else
        let exponentText := 'e' :: signedDigits (point - 1)
        match ds with
        | first :: second :: rest => first :: '.' :: second :: rest ++ exponentText
        | _ => ds ++ exponentText
  .ofList (if x.isNegative then '-' :: body else body)

/-- Reads an unsigned decimal with an optional exponent: digits on at least one side of an optional
point. -/
def readDecimals? (cs : List Char) : Option Decimals :=
  let whole := cs.takeWhile Char.isDigit
  let (fraction, rest) :=
    match cs.dropWhile Char.isDigit with
    | '.' :: more => (more.takeWhile Char.isDigit, more.dropWhile Char.isDigit)
    | more => ([], more)
  if whole.isEmpty && fraction.isEmpty then none
  else
    let decimals (exponent : Int) : Decimals :=
      ⟨ofDigits (whole ++ fraction), exponent - fraction.length⟩
    match rest with
    | [] => some (decimals 0)
    | mark :: more =>
      if mark == 'e' || mark == 'E' then (readSigned? more).map decimals else none

/-- Reads a number: an optional sign, then `inf`, `infinity` or `nan` in any case, or a decimal. -/
def ofText? (s : String) : Option Binary64 :=
  let (negative, rest) := splitSign s.toList
  let word := String.ofList (rest.map Char.toLower)
  if word == "inf" || word == "infinity" then some (infinity negative)
  else if word == "nan" then some (nan negative)
  else (readDecimals? rest).map fun d => ofDecimal negative d.mantissa d.power

end SqlScribe.Binary64

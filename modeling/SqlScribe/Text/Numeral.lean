/-!
# Decimal numerals

Whole numbers written in base ten and read back.
-/

namespace SqlScribe.Text

/-- The decimal digits of a number, without leading zeros. -/
def digits (n : Nat) : List Char := Nat.toDigits 10 n

/-- The number that a list of decimal digits stands for. -/
def ofDigits (cs : List Char) : Nat := Nat.ofDigitChars 10 cs 0

/-- The decimal digits of a number, filled up with zeros on the left to a least width. -/
def paddedDigits (width n : Nat) : List Char :=
  List.replicate (width - (digits n).length) '0' ++ digits n

/-- A whole number with a minus sign in front if it is negative. -/
def signedDigits (n : Int) : List Char :=
  if n < 0 then '-' :: digits n.natAbs else digits n.natAbs

/-- A whole number as text. -/
def numeral (n : Int) : String := .ofList (signedDigits n)

/-- Splits a leading sign off; `true` stands for minus. -/
def splitSign : List Char → Bool × List Char
  | '+' :: rest => (false, rest)
  | '-' :: rest => (true, rest)
  | rest => (false, rest)

/-- Reads one optional sign and one or more digits, and nothing else. -/
def readSigned? (cs : List Char) : Option Int :=
  let (negative, rest) := splitSign cs
  if rest.isEmpty || !rest.all Char.isDigit then none
  else some (if negative then -(ofDigits rest : Int) else ofDigits rest)

theorem ofDigits_digits (n : Nat) : ofDigits (digits n) = n := by
  simp [ofDigits, digits]

end SqlScribe.Text

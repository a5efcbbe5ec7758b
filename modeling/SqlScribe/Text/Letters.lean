/-!
# ASCII letters and digits

Names of types, dialects and columns are matched without regard to the case of the letters A to Z;
no other character has a case here.
-/

namespace SqlScribe.Text

/-- The text with A to Z in lower case. -/
def lowerLetters (s : String) : String := s.map Char.toLower

/-- Two names are the same up to the case of A to Z. -/
def sameName (a b : String) : Bool := lowerLetters a == lowerLetters b

/-- One of `0` to `9`, `a` to `f` and `A` to `F`. -/
def isHexDigit (c : Char) : Bool :=
  c.isDigit || ('a' ≤ c && c ≤ 'f') || ('A' ≤ c && c ≤ 'F')

/-- The number a hexadecimal digit stands for. -/
def hexValue (c : Char) : Nat :=
  if c.isDigit then c.toNat - 48
  else if 'a' ≤ c && c ≤ 'f' then c.toNat - 87
  else c.toNat - 55

/-- The upper-case hexadecimal digit of a number below sixteen. -/
def upperHexDigit (n : Nat) : Char := if n < 10 then .ofNat (48 + n) else .ofNat (55 + n)

/-- The lower-case hexadecimal digit of a number below sixteen. -/
def lowerHexDigit (n : Nat) : Char := if n < 10 then .ofNat (48 + n) else .ofNat (87 + n)

/-- Two upper-case hexadecimal digits per byte. -/
def upperHex (bytes : List UInt8) : List Char :=
  bytes.flatMap fun b => [upperHexDigit (b.toNat / 16), upperHexDigit (b.toNat % 16)]

/-- Two lower-case hexadecimal digits per byte. -/
def lowerHex (bytes : List UInt8) : List Char :=
  bytes.flatMap fun b => [lowerHexDigit (b.toNat / 16), lowerHexDigit (b.toNat % 16)]

/-- The bytes that pairs of hexadecimal digits stand for; a digit left over is dropped. -/
def hexBytes : List Char → List UInt8
  | hi :: lo :: rest => UInt8.ofNat (hexValue hi * 16 + hexValue lo) :: hexBytes rest
  | _ => []

theorem sameName_refl (a : String) : sameName a a = true := by simp [sameName]

theorem sameName_comm (a b : String) : sameName a b = sameName b a := by
  simp [sameName, Bool.beq_comm]

end SqlScribe.Text

import SqlScribe.Text.Letters
import SqlScribe.Text.Printable

/-!
# Quoted diagnostics

How a message shows a text it complains about: between double quotes, with escapes for the quote,
the backslash and every character that would not be seen.
-/

namespace SqlScribe.Text

private def lowerHexNumeral (n : Nat) : List Char := (Nat.toDigits 16 n)

/-- One character of a quoted diagnostic. -/
def quotedChar (c : Char) : List Char :=
  if c = '"' then ['\\', '"']
  else if c = '\\' then ['\\', '\\']
  else if c = '\n' then ['\\', 'n']
  else if c = '\t' then ['\\', 't']
  else if c = '\r' then ['\\', 'r']
  else if c.toNat = 0 then ['\\', '0']
  else if isPrintable c then [c]
  else ['\\', 'u', '\x7b'] ++ lowerHexNumeral c.toNat ++ ['\x7d']

/-- A text as a diagnostic shows it. -/
def quoted (s : String) : String := .ofList ('"' :: (s.toList.flatMap quotedChar ++ ['"']))

end SqlScribe.Text

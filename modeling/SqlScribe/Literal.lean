import SqlScribe.Text.Letters
import SqlScribe.Value.Conversion

/-!
# Literals

A literal as it stands in SQL, before it is known which type it is meant to have.
-/

namespace SqlScribe

open SqlScribe.Text

/-- A literal; a date or a time is text to begin with. -/
inductive Literal
  | null
  | bool (b : Bool)
  | number (digits : List Char)
  | text (content : List Char)
  | hex (digits : List Char)
deriving DecidableEq

namespace Literal

/-- The bytes that pairs of hexadecimal digits stand for. -/
def readBytes (digits : List Char) : Except Fault (List UInt8) :=
  let good := (digits.takeWhile isHexDigit).length
  if good < digits.length then .error (.literal (.badHexDigit good (.ofList digits)))
  else if digits.length % 2 ≠ 0 then .error (.literal (.oddHexDigits (.ofList digits)))
  else .ok (hexBytes digits)

/-- A number of no known type: an integer if it can be one. -/
def readAnyNumber (digits : String) : Except Fault Value :=
  match readInt64? digits with
  | some n => .ok (.int n)
  | none =>
    match Binary64.ofText? digits with
    | some x => .ok (.float x)
    | none => .error (.literal (.badNumber digits))

/-- The value of a type that a literal stands for; the unknown type takes it as it is. -/
def toValue (type : ColumnType) : Literal → Except Fault Value
  | null => .ok .null
  | bool b => (Value.bool b).convert type
  | number digits =>
    if type = .unknown then readAnyNumber (.ofList digits)
    else (Value.string (.ofList digits)).convert type
  | text content => (Value.string (.ofList content)).convert type
  | hex digits => do (Value.binary (← readBytes digits)).convert type

end Literal

end SqlScribe

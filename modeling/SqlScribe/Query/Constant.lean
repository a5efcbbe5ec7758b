import SqlScribe.Value.Conversion

/-!
# Constants

A value together with a known column type, to which it belongs.
-/

namespace SqlScribe

/-- A typed value of a query. -/
structure Constant where
  value : Value
  type : ColumnType
deriving DecidableEq

namespace Constant

/-- The constant of a type, its value converted to it. The unknown type is inferred from the value;
a NULL then has none. -/
def typed (value : Value) (type : ColumnType) : Except Fault Constant := do
  let type := if type = .unknown then value.columnType else type
  if type = .unknown then .error .nullConstant
  else return ⟨← value.convert type, type⟩

/-- The constant of a value whose type is inferred. -/
def infer (value : Value) : Except Fault Constant := typed value .unknown

/-- A typed NULL. -/
def null (type : ColumnType) : Except Fault Constant := typed .null type

/-- The constant of a value taken as it is, with the type of its kind: a moment stays a moment, even
at the beginning of a day. There is none for NULL. -/
def ofValue? : Value → Option Constant
  | .null => none
  | v@(.dateTime _) => some ⟨v, .dateTime⟩
  | v => some ⟨v, v.columnType⟩

/-- An integer constant. -/
def ofInt (n : Int64) : Constant := ⟨.int n, .integer⟩

def isNull (c : Constant) : Bool := c.value.isNull

/-- The same type and the same value. -/
def equals (a b : Constant) : Bool := a.value.equals b.value && a.type == b.type

end Constant

end SqlScribe

import SqlScribe.Fault
import SqlScribe.Text.Blank
import SqlScribe.Text.Letters

/-!
# Columns of a table

What is known of a table: the name and the type of each column, and limits that choose among the
storage types of a database.
-/

namespace SqlScribe

/-- The type that a text names; a name that is not known is repeated in small letters. -/
def ColumnType.parse (s : String) : Except Fault ColumnType :=
  match ofAlias? s with
  | some ty => .ok ty
  | none => .error (.invalid (.unknownColumnType (Text.lowerLetters s)))

/-- A column of a table. -/
structure Column where
  name : String
  type : ColumnType
  min : Option Int64
  max : Option Int64
  maxLength : Option Nat
deriving DecidableEq

namespace Column

/-- A column without limits. -/
def of (name : String) (type : ColumnType) : Column := ⟨name, type, none, none, none⟩

/-- The column with bounds on its integers. -/
def bounded (c : Column) (least most : Int64) : Column :=
  { c with min := some least, max := some most }

/-- The column with a bound on the length of its text. -/
def limited (c : Column) (length : Nat) : Column := { c with maxLength := some length }

/-- A column has a name and a type, and its bounds leave room. -/
def validate (c : Column) : Except Fault Unit :=
  if Text.isAllBlank c.name then .error (.invalid .emptyColumnName)
  else if c.type = .unknown then .error (.invalid (.untypedColumn c.name))
  else
    match c.min, c.max with
    | some least, some most =>
      if most < least then .error (.invalid (.emptyBounds c.name least most)) else .ok ()
    | _, _ => .ok ()

end Column

end SqlScribe

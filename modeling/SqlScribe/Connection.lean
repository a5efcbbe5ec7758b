import SqlScribe.Dialect.Builtin
import SqlScribe.Statement

/-!
# Connections

Which database a URL leads to, and how a statement is sent to it: the driver has marks of its own
for parameters.
-/

namespace SqlScribe

open SqlScribe.Text

namespace Connection

/-- The dialect that the scheme of a URL stands for. -/
def dialectOf (url : String) : Except Fault Builtin :=
  let scheme := lowerLetters ((splitAt ':' url).headD "")
  if scheme = "postgres" ∨ scheme = "postgresql" then .ok .postgres
  else if scheme = "sqlite" then .ok .sqlite
  else .error (.connection ("no driver for URL scheme '" ++ scheme ++ "'"))

/-- The cast that a parameter sent as text needs. -/
def cast : ColumnType → String
  | .date => "::date"
  | .time => "::time"
  | .dateTime => "::timestamp"
  | .guid => "::uuid"
  | .money => "::numeric"
  | _ => ""

/-- The driver's mark for a parameter, counted from 0. -/
def mark (b : Builtin) (params : List Param) (i : Nat) : String :=
  match b with
  | .postgres => "$" ++ numeral (i + 1) ++ ((params[i]?).map fun p => cast p.type).getD ""
  | _ => "?"

/-- The text of a statement with the marks of the driver. -/
def nativeSql (b : Builtin) (s : Statement) : String := s.rebind (mark b s.params)

/-- What is sent for a parameter: a value that the driver has no type for goes as text. -/
def sent : Value → Value
  | .null => .null
  | .bool b => .bool b
  | .int n => .int n
  | .float x => .float x
  | .string s => .string s
  | .binary bytes => .binary bytes
  | v => .string v.plainText

end Connection

end SqlScribe

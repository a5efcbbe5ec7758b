import SqlScribe.Fault
import SqlScribe.Number.Decimal.Conversion
import SqlScribe.Number.Integer
import SqlScribe.Text.Blank

/-!
# Conversion between column types

A value is converted to a column type exactly or not at all. NULL belongs to every type, and the
unknown type takes every value as it is.
-/

namespace SqlScribe.Value

open SqlScribe.Text

/-- The truth value that a text stands for. -/
def readBool? (s : String) : Option Bool :=
  let s := lowerLetters (trim s)
  if ["1", "true", "t", "y"].contains s then some true
  else if ["0", "false", "f", "n"].contains s then some false
  else none

/-- The identifier that a text stands for; braces around it are passed over. -/
def readGuid? (s : String) : Option Guid :=
  Guid.ofChars? (strip (fun c => c == '\x7b' || c == '\x7d') (strip isBlank s.toList))

/-- The value converted to text. -/
def toStringValue? : Value → Option Value
  | string s => some (.string s)
  | v@(int _) | v@(float _) | v@(money _) | v@(bool _) | v@(guid _) => some (.string v.plainText)
  | _ => none

/-- The value converted to an integer. -/
def toInteger? : Value → Option Value
  | int n => some (.int n)
  | bool b => some (.int (if b then 1 else 0))
  | float x => (x.toInt?.bind fitInt64?).map .int
  | money d => (d.toInt?.bind fitInt64?).map .int
  | string s => (readInt64? (trim s)).map .int
  | _ => none

/-- The value converted to a floating-point number. -/
def toFloat? : Value → Option Value
  | float x => some (.float x)
  | int n => some (.float (.ofInt n.toInt))
  | money d => some (.float d.toBinary64)
  | string s => (Binary64.ofText? (trim s)).map .float
  | _ => none

/-- The value converted to an amount of money. -/
def toMoney? : Value → Option Value
  | money d => some (.money d)
  | int n => some (.money (.ofInt64 n))
  | float x => (Decimal.ofBinary64? x).map .money
  | string s => (Decimal.ofText? (trim s)).map .money
  | _ => none

/-- The value converted to a truth value. -/
def toBoolean? : Value → Option Value
  | bool b => some (.bool b)
  | int n => if n = 0 then some (.bool false) else if n = 1 then some (.bool true) else none
  | string s => (readBool? s).map .bool
  | _ => none

/-- The value converted to a day. -/
def toDate? : Value → Option Value
  | date d => some (.date d)
  | dateTime m => some (.date m.date)
  | string s => (DateTime.ofFreeText? s).map (.date ·.date)
  | _ => none

/-- The value converted to a moment. -/
def toDateTime? : Value → Option Value
  | dateTime m => some (.dateTime m)
  | date d => some (.dateTime (.startOf d))
  | string s => (DateTime.ofFreeText? s).map .dateTime
  | _ => none

/-- The value converted to a time of day. -/
def toTime? : Value → Option Value
  | time t => some (.time t)
  | dateTime m => some (.time m.time)
  | string s => (Time.ofFreeText? s).map .time
  | _ => none

/-- The value converted to an identifier. -/
def toGuid? : Value → Option Value
  | guid g => some (.guid g)
  | string s => (readGuid? s).map .guid
  | binary bytes => (Guid.ofBlob? bytes).map .guid
  | _ => none

/-- The value converted to bytes. -/
def toBinary? : Value → Option Value
  | binary bytes => some (.binary bytes)
  | guid g => some (.binary g.toBlob)
  | _ => none

/-- The value converted to a column type, if that is possible. -/
def convert? (v : Value) (ty : ColumnType) : Option Value :=
  if v.isNull then some .null
  else
    match ty with
    | .unknown => some v
    | .string | .memo | .xml => v.toStringValue?
    | .integer => v.toInteger?
    | .float => v.toFloat?
    | .money => v.toMoney?
    | .boolean => v.toBoolean?
    | .date => v.toDate?
    | .time => v.toTime?
    | .dateTime => v.toDateTime?
    | .guid => v.toGuid?
    | .binary => v.toBinary?

/-- The value converted to a column type. -/
def convert (v : Value) (ty : ColumnType) : Except Fault Value :=
  match v.convert? ty with
  | some w => .ok w
  | none => .error (.invalid (.conversion v ty))

theorem convert?_null (ty : ColumnType) : null.convert? ty = some null := rfl

theorem convert_eq_ok {v w : Value} {ty : ColumnType} :
    v.convert ty = .ok w ↔ v.convert? ty = some w := by
  unfold convert
  split <;> simp [*]

end SqlScribe.Value

import SqlScribe.Calendar.Moment
import SqlScribe.ColumnType
import SqlScribe.Guid
import SqlScribe.Number.Binary64
import SqlScribe.Number.Decimal

/-!
# Values

What a cell or a constant holds, and the type that a value has by itself.
-/

namespace SqlScribe

/-- A value of one of the column types, or NULL. -/
inductive Value
  | null
  | bool (b : Bool)
  | int (n : Int64)
  | float (x : Binary64)
  | money (d : Decimal)
  | string (s : String)
  | date (d : Date)
  | time (t : Time)
  | dateTime (m : DateTime)
  | guid (g : Guid)
  | binary (bytes : List UInt8)
deriving DecidableEq

namespace Value

def isNull : Value → Bool
  | null => true
  | _ => false

/-- The type inferred for a value. The beginning of a day counts as a date. -/
def columnType : Value → ColumnType
  | null => .unknown
  | bool _ => .boolean
  | int _ => .integer
  | float _ => .float
  | money _ => .money
  | string _ => .string
  | date _ => .date
  | time _ => .time
  | dateTime m => if m.time = .midnight then .date else .dateTime
  | guid _ => .guid
  | binary _ => .binary

/-- Two values are the same: amounts and floating-point numbers by number, all else as written. -/
def equals : Value → Value → Bool
  | float x, float y => x.equals y
  | money a, money b => a.equals b
  | v, w => decide (v = w)

end Value

/-- The value that stands in for NULL in a column of this type. -/
def ColumnType.default : ColumnType → Value
  | unknown => .null
  | string | memo | xml => .string ""
  | integer => .int 0
  | float => .float .zero
  | money => .money .zero
  | boolean => .bool false
  | date => .date .first
  | dateTime => .dateTime (.startOf .first)
  | time => .time .midnight
  | guid => .guid .nil
  | binary => .binary []

theorem ColumnType.isNull_default (type : ColumnType) :
    type.default.isNull = decide (type = .unknown) := by
  cases type <;> rfl

end SqlScribe

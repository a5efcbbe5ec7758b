import SqlScribe.Text.Letters

/-!
# Column types

The types a column may have, independent of any database.
-/

namespace SqlScribe

/-- The type of a column or a constant; `unknown` stands for one that is yet to be inferred. -/
inductive ColumnType
  | unknown
  | string
  | integer
  | float
  | money
  | boolean
  | date
  | time
  | dateTime
  | guid
  | binary
  | memo
  | xml
deriving DecidableEq

namespace ColumnType

/-- Every known type, in the order in which they are listed to a user. -/
def known : List ColumnType :=
  [string, integer, float, money, boolean, date, time, dateTime, guid, binary, memo, xml]

def name : ColumnType → String
  | unknown => "unknown"
  | string => "string"
  | integer => "integer"
  | float => "float"
  | money => "money"
  | boolean => "boolean"
  | date => "date"
  | time => "time"
  | dateTime => "datetime"
  | guid => "guid"
  | binary => "binary"
  | memo => "memo"
  | xml => "xml"

/-- Types whose values are text. -/
def isText : ColumnType → Bool
  | string | memo | xml => true
  | _ => false

def isNumeric : ColumnType → Bool
  | integer | float | money => true
  | _ => false

def isTemporal : ColumnType → Bool
  | date | time | dateTime => true
  | _ => false

/-- The type of exactly this name. -/
def ofName? (s : String) : Option ColumnType := (unknown :: known).find? (·.name == s)

/-- Other names that a type goes by. -/
def aliases : List (String × ColumnType) :=
  [("text", string), ("varchar", string), ("int", integer), ("double", float), ("real", float),
    ("decimal", money), ("bool", boolean), ("timestamp", dateTime), ("uuid", guid),
    ("blob", binary)]

/-- The type that a name or another name stands for, in any case. -/
def ofAlias? (s : String) : Option ColumnType :=
  let s := Text.lowerLetters s
  (ofName? s).orElse fun _ => aliases.lookup s

theorem ofName?_name (ty : ColumnType) : ofName? ty.name = some ty := by
  cases ty <;> decide

end ColumnType

end SqlScribe

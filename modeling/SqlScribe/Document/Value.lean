import SqlScribe.Document.Reading
import SqlScribe.Schema

/-!
# Values and columns in documents

A value is written with the name of its kind, so that reading gives the same kind back.
-/

namespace SqlScribe

open Json

namespace ColumnType

def toJson (ty : ColumnType) : Json := .string ty.name

def ofJson : Reader ColumnType := readName ofName? ((unknown :: known).map name)

end ColumnType

namespace Decimal

/-- A whole number as an amount. -/
def ofInt? (n : Int) : Option Decimal := of? (n < 0) n.natAbs 0

/-- Reads an amount from a text or from a number. -/
def ofJson : Reader Decimal
  | .integer n => orMisfit (.integer n) (ofInt? n)
  | .real x => orMisfit (.real x) (ofText? x.toText)
  | .string s => orMisfit (.string s) (ofText? s)
  | .deep _ => .error (.text .tooDeep)
  | doc => .error (doc.mismatch expected)
where
  expected : String := "a Decimal type representing a fixed-point number"
  orMisfit (doc : Source) : Option Decimal → Except DocumentFault Decimal
    | some d => .ok d
    | none => .error (doc.misfit expected)

end Decimal

namespace Binary64

def ofJson : Reader Binary64
  | .integer n => .ok (.ofInt n)
  | .real x => .ok x
  | doc => .error (doc.mismatch "f64")

end Binary64

namespace Value

/-- The names of the kinds. -/
def kinds : List String :=
  ["null", "bool", "int", "float", "money", "string", "date", "time", "datetime", "guid", "binary"]

private def tagged (kind : String) (content : Json) : Json :=
  .object [("type", .string kind), ("value", content)]

/-- The value with the name of its kind. -/
def toJson : Value → Json
  | null => .object [("type", .string "null")]
  | bool b => tagged "bool" (.bool b)
  | int n => tagged "int" (.integer n.toInt)
  | float x => tagged "float" (if x.isFinite then .real x else .null)
  | money d => tagged "money" (.string d.toText)
  | string s => tagged "string" (.string s)
  | date d => tagged "date" (.string d.toText)
  | time t => tagged "time" (.string t.toText)
  | dateTime m => tagged "datetime" (.string m.toText)
  | guid g => tagged "guid" (.string g.toText)
  | binary bytes => tagged "binary" (.array (bytes.map fun b => .integer b.toNat))

/-- A day, a time of day, or both. -/
def readMoment {α : Type} (ofText : String → Except PatternFault α) (what : String) : Reader α :=
  readText (fun s => (ofText s).mapError (·.message)) ("a formatted " ++ what ++ " string")

def readGuid : Reader Guid :=
  readText (fun s => (Guid.ofText s).mapError ("UUID parsing failed: " ++ ·.message)) "a UUID string"

/-- Reads the content of a value of a kind. -/
def readContent (kind : String) : Reader Value := fun doc =>
  match kind with
  | "bool" => (readBool doc).map bool
  | "int" => (readInt64 doc).map int
  | "float" => (Binary64.ofJson doc).map float
  | "money" => (Decimal.ofJson doc).map money
  | "string" => (readString doc).map string
  | "date" => (readMoment Date.ofText "date" doc).map date
  | "time" => (readMoment Time.ofText "time" doc).map time
  | "datetime" => (readMoment DateTime.ofText "date and time" doc).map dateTime
  | "guid" => (readGuid doc).map guid
  | "binary" => (readList readByte doc).map binary
  | _ =>
    match doc with
    | .null => .ok null
    | .deep _ => .error (.text .tooDeep)
    | doc => .error (doc.mismatch "unit variant Value::Null")

/-- Reads the name of a kind. -/
def readKind : Reader String := readName (fun s => kinds.find? (· == s)) kinds

/-- The value, unless a further member repeats its kind or its content. -/
def unlessRepeated (value : Value) : List Member → Placed Value
  | [] => pure value
  | member :: _ => .fail member.place (.shape (.duplicate member.name))

/-- Reads a value from its kind and its content, which may come in any order. A content that comes
before the kind is read as a document of any shape first. -/
def ofMembers (members : Members) : Placed Value :=
  match members.known with
  | [] => .fail Placed.afterAll (members.absence "type")
  | first :: rest =>
    if first.name == "type" then
      match readKind first.content, rest with
      | .error fault, _ => .fail first.place fault
      | .ok kind, [] =>
        if kind == "null" && members.listed.isNone then pure null
        else .fail Placed.afterAll (members.absence "value")
      | .ok kind, second :: rest =>
        if second.name == "type" then .fail second.place (.shape (.duplicate "type"))
        else
          match readContent kind second.content with
          | .error fault => .fail second.place fault
          | .ok value => unlessRepeated value rest
    else
      match readAny first.content, rest with
      | .error fault, _ => .fail first.place fault
      | .ok _, [] => .fail Placed.afterAll (members.absence "type")
      | .ok _, second :: rest =>
        if second.name == "value" then .fail second.place (.shape (.duplicate "value"))
        else
          match readKind second.content >>= fun kind => readContent kind first.content with
          | .error fault => .fail second.place fault
          | .ok value => unlessRepeated value rest

/-- Reads a value. -/
def ofJson : Reader Value := fun doc => do
  let what := "adjacently tagged enum Value"
  let members ← Members.ofSource what what ["type", "value"] [] doc
  (ofMembers members).within members

end Value

namespace Column

/-- The column, its unset limits left out. -/
def toJson (c : Column) : Json :=
  .object (
    [("name", .string c.name), ("type", c.type.toJson)] ++
      (c.min.map fun n => ("min", .integer n.toInt)).toList ++
      (c.max.map fun n => ("max", .integer n.toInt)).toList ++
      (c.maxLength.map fun n => ("max_len", .integer n)).toList)

/-- Reads a column; its type may go by `type` or `ty`. -/
def ofJson : Reader Column := fun doc => do
  let members ← recordOf "struct ColumnDef" ["name", "type", "min", "max", "max_len"]
    [("ty", "type")] doc
  (Column.mk <$> required members "name" readString
    <*> required members "type" ColumnType.ofJson
    <*> orNone members "min" readInt64
    <*> orNone members "max" readInt64
    <*> orNone members "max_len" readSize).within members

end Column

end SqlScribe

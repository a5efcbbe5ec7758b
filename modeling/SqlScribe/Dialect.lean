import SqlScribe.Dialect.Identifier
import SqlScribe.Dialect.Like
import SqlScribe.Query.ColumnPath
import SqlScribe.Schema
import SqlScribe.Value.Conversion

/-!
# SQL dialects

A dialect is the record of everything in which databases differ. `Dialect.standard` fills it with
what most of them agree on; a particular dialect says only where it departs from that.
-/

namespace SqlScribe

open SqlScribe.Text

/-- How one database writes SQL. -/
structure Dialect where
  name : String
  quoting : Quoting
  rowLimit : RowLimit
  features : Features
  /-- The type that a column is stored as. -/
  storageType : Column → Except Fault String
  identifier : String → Except Fault String
  column : ColumnPath → Except Fault String
  /-- The text that stands for a parameter, counted from 0. -/
  placeholder : Nat → String
  nullLiteral : ColumnType → Except Fault String
  boolLiteral : Bool → String
  textLiteral : String → String
  dateLiteral : Date → String
  timeLiteral : Time → String
  dateTimeLiteral : DateTime → String
  guidLiteral : Guid → String
  binaryLiteral : List UInt8 → Except Fault String
  /-- The value that a NULL of a type stands for. -/
  defaultValue : ColumnType → Value
  /-- A literal for the default of a type that is not simply the literal of that value. -/
  specialDefault : ColumnType → Option (Except Fault String)
  functionName : Func → Except Fault String
  /-- The first of two expressions that is not NULL. -/
  coalesce : String → String → String
  concat : List String → String
  /-- A call that is not written as a name with arguments. -/
  specialCall : Func → List String → Option String
  /-- A condition that always or never holds. -/
  truth : Bool → String
  escapeLike : String → String
  likeEscapeClause : String
  /-- The value that is bound for a parameter of a type. -/
  prepare : Value → ColumnType → Except Fault Value
  /-- The value that a result column of a type holds, made from what the database gave. -/
  correct : Value → ColumnType → Except Fault Value
  /-- The dialect has SELECT statements. -/
  selects : Bool

namespace Dialect

/-- A text between single quotes, a single quote inside it doubled. -/
def quotedText (s : String) : String := "'" ++ doubled '\x27' s ++ "'"

/-- A moment written by a pattern, between two texts. -/
def stamped (before : String) (pattern : Pattern) (after : String) (m : DateTime) : String :=
  before ++ .ofList (pattern.write m) ++ after

/-- The date pattern, a blank, and the time pattern. -/
def onDay (date time : Pattern) : Pattern := date ++ .gap :: time

/-- A path whose parts are written one by one, joined by points. -/
def joinedPath (identifier : String → Except Fault String) (path : ColumnPath) :
    Except Fault String := do
  return join "." (← path.parts.mapM identifier)

/-- What most databases agree on. -/
def standard (name : String) (quoting : Quoting) (rowLimit : RowLimit) (features : Features)
    (storageType : Column → Except Fault String) : Dialect where
  name
  quoting
  rowLimit
  features
  storageType
  identifier := quoting.write
  column := joinedPath quoting.write
  placeholder i := "@P" ++ numeral (i + 1)
  nullLiteral _ := .ok "NULL"
  boolLiteral b := if b then "1" else "0"
  textLiteral := quotedText
  dateLiteral d := stamped "'" .dashedDate "'" (.startOf d)
  timeLiteral t := stamped "'" .preciseClock "'" ⟨.first, t⟩
  dateTimeLiteral := stamped "'" (onDay .dashedDate .preciseClock) "'"
  guidLiteral g := "'" ++ g.toText ++ "'"
  binaryLiteral bytes := .ok ("X'" ++ .ofList (upperHex bytes) ++ "'")
  defaultValue := ColumnType.default
  specialDefault _ := none
  functionName f := .ok f.sql
  coalesce e fallback := "COALESCE(" ++ e ++ ", " ++ fallback ++ ")"
  concat parts := "(" ++ join " || " parts ++ ")"
  specialCall _ _ := none
  truth b := if b then "1=1" else "1=0"
  escapeLike := Like.escapeBackslash
  likeEscapeClause := " ESCAPE '\\'"
  prepare := Value.convert
  correct v _ := .ok v
  selects := true

/-- A dialect that departs from the standard in its name, quoting, row limit and features only. It
stores every type under the type's own name. -/
def custom (name : String) (quoting : Quoting) (rowLimit : RowLimit) (features : Features) :
    Dialect :=
  standard name quoting rowLimit features fun c => .ok (c.type.name.map Char.toUpper)

/-- The fault of a construct that the dialect lacks. -/
def lacks {α : Type} (d : Dialect) (feature : Feature) : Except Fault α :=
  .error (.unsupported d.name feature)

/-- The fault of a column that has no storage type. -/
def noStorageType {α : Type} (dialect : String) (c : Column) : Except Fault α :=
  .error (.invalid (.noStorageType c.name dialect))

/-- The smallest of four integer types that holds the bounds of a column. -/
def integerType (c : Column) (names : String × String × String × String) (unsignedTiny : Bool) :
    String :=
  match c.min, c.max with
  | some least, some most =>
    let within (low high : Int) : Bool := low ≤ least.toInt && most.toInt ≤ high
    if if unsignedTiny then within 0 255 else within (-128) 127 then names.1
    else if within (-32768) 32767 then names.2.1
    else if within (-2147483648) 2147483647 then names.2.2.1
    else names.2.2.2
  | _, _ => names.2.2.2

/-- A text type with the length bound of a column, if that is at most some limit. -/
def textType (c : Column) (limit : Nat) (bounded unbounded : String) : String :=
  match c.maxLength with
  | some n => if n ≤ limit then bounded ++ "(" ++ numeral n ++ ")" else unbounded
  | none => unbounded

/-- The name of a table, whose parts are separated by points. -/
def tableName (d : Dialect) (table : String) : Except Fault String := do
  if isAllBlank table then .error (.invalid .emptyTableName)
  return join "." (← (splitAt '.' table).mapM fun part => d.identifier (trim part))

/-- A value of a type as a literal; the unknown type is inferred. -/
def literal (d : Dialect) (value : Value) (type : ColumnType) : Except Fault String := do
  let type := if type = .unknown then value.columnType else type
  match ← value.convert type with
  | .null => d.nullLiteral type
  | .bool b => return d.boolLiteral b
  | .int n => return numeral n.toInt
  | .float x =>
    if x.isFinite then return x.toText else .error (.invalid (.nonFiniteLiteral x))
  | .money m => return m.toText
  | .string s => return d.textLiteral s
  | .date v => return d.dateLiteral v
  | .time t => return d.timeLiteral t
  | .dateTime m => return d.dateTimeLiteral m
  | .guid g => return d.guidLiteral g
  | .binary bytes => d.binaryLiteral bytes

/-- The literal of the value that stands in for NULL in a column of a type. -/
def defaultLiteral (d : Dialect) (type : ColumnType) : Except Fault String :=
  match d.specialDefault type with
  | some written => written
  | none =>
    if type = .unknown then .error (.invalid .unknownDefaultType)
    else d.literal (d.defaultValue type) type

/-- A function call over rendered arguments. -/
def call (d : Dialect) (f : Func) (args : List String) : Except Fault String :=
  match d.specialCall f args with
  | some text => .ok text
  | none =>
    match f with
    | .coalesce =>
      match args.reverse with
      | [] => .error (.invalid .noCoalesceArgument)
      | last :: rest => .ok (rest.foldl (fun fallback e => d.coalesce e fallback) last)
    | .concat => .ok (d.concat args)
    | f => do return (← d.functionName f) ++ "(" ++ join ", " args ++ ")"

/-- An aggregate over a rendered argument, or over all rows. -/
def aggregate (d : Dialect) (f : Aggregate) (arg : Option String) : Except Fault String :=
  if d.features.aggregates then .ok (f.sql ++ "(" ++ arg.getD "*" ++ ")") else d.lacks .aggregates

end Dialect

end SqlScribe

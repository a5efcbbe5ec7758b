import SqlScribe.Query.Operator
import SqlScribe.Text.Pieces
import SqlScribe.Text.Quoted
import SqlScribe.Value.Text
import SqlScribe.Writer.Mode

/-!
# Faults

Everything that can go wrong, as causes. The wording is kept in one place, at the end of each
family.
-/

namespace SqlScribe

open SqlScribe.Text

/-- An argument that makes no sense. -/
inductive Mistake
  | conversion (value : Value) (ty : ColumnType)
  | unknownColumnType (name : String)
  | emptyColumnName
  | emptyPathSegment (path : String)
  | untypedColumn (name : String)
  | emptyBounds (name : String) (least most : Int64)
  | argumentCount (func : Func) (given : Nat)
  | noCoalesceArgument
  | noAggregateArgument (func : Aggregate)
  | notEvaluable (func : Func) (given : Nat)
  | emptyAlias (expr : String)
  | missingAlias (expr : String)
  | emptyTableName
  | emptyTableAlias (table : String)
  | negativeRowLimit (count : Int64) (table : String)
  | emptyIdentifier
  | unquotableIdentifier (name : String)
  | unknownDefaultType
  | unknownSubstituteType (column : String)
  | subqueryWidth (table : String) (columns : Nat)
  | nullBound
  | nonFiniteLiteral (x : Binary64)
  | noStorageType (column dialect : String)
  | noInsertColumns (table : String)
  | noInsertRows (table : String)
  | insertRowWidth (row values columns : Nat)
  | nothingToSet (table : String)
  | noKeyColumns (table : String)
  | keyValueCount (values keys : Nat)
  | setValueCount (values columns : Nat)
  | unknownDialect (name : String)
  | unregisteredTarget (name : String)
  | rowWidth (values columns : Nat) (table : String)
  | noSuchColumn (column table : String)
  | wrongTable (wanted actual : String)
  | incomparable (lhs rhs : Value)
  | nothingToWrite (table : String)
  | columnTwice (column table : String)
  | noSuchSearchColumn (column table : String)
  | noSearchColumn (mode : WriteMode) (table : String)
  | noColumnToSet (mode : WriteMode) (table : String)
deriving DecidableEq

/-- Something that a dialect cannot express. -/
inductive Feature
  | inSubquery
  | parameters
  | tableAlias
  | subqueryRowLimit
  | aggregates
  | multiRowInsert
  | binaryLiterals
  | function (func : Func)
  | qualifiedColumn (path : String)
  | selectStatements
deriving DecidableEq

/-- A reason why a text is no literal. -/
inductive LiteralFault
  | trailing (position : Nat) (rest : String)
  | notLiteral (rest : String)
  | badNumber (digits : String)
  | badHexDigit (position : Nat) (digits : String)
  | oddHexDigits (digits : String)
deriving DecidableEq

/-- A statement that a backend answered without saying how many rows it touched. -/
inductive Uncounted
  | update
  | insert
deriving DecidableEq

/-- Anything that can go wrong. -/
inductive Fault
  | invalid (mistake : Mistake)
  | nullConstant
  | aliasCollision (label : String)
  | groupByInitialized (table : String)
  | groupByEmptyProjection (table : String)
  | mixedAggregation (label : String)
  | unsupported (dialect : String) (feature : Feature)
  | statementTooLong (length limit : Nat)
  | uncounted (statement : Uncounted) (table : String)
  | literal (cause : LiteralFault)
  | database (text : String)
  | connection (text : String)
  | configuration (text : String)
  | io (text : String)
  /-- A result that is no 64-bit integer. This ends the program rather than the call. -/
  | overflow
deriving DecidableEq

private def counted (n : Nat) : String := numeral n

namespace Mistake

/-- What is wrong, and why. -/
def parts : Mistake → String × String
  | conversion v ty => ("value", "cannot convert " ++ v.display ++ " to " ++ ty.name)
  | unknownColumnType name => ("column type", "'" ++ name ++ "' is not known")
  | emptyColumnName => ("column name", "must not be empty")
  | emptyPathSegment path => ("column name", "'" ++ path ++ "' has an empty path segment")
  | untypedColumn name => ("column type", "column '" ++ name ++ "' has no type")
  | emptyBounds name least most =>
    ("column bounds", "'" ++ name ++ "' has min " ++ numeral least.toInt ++ " above max " ++
      numeral most.toInt)
  | argumentCount f given =>
    (f.sql ++ " call", "takes " ++ counted f.least ++ ".." ++ counted (f.most.getD 99) ++
      " arguments, got " ++ counted given)
  | noCoalesceArgument => ("COALESCE call", "needs arguments")
  | noAggregateArgument f => (f.sql ++ " call", "needs an argument")
  | notEvaluable f given =>
    (f.sql ++ " call", "cannot evaluate with " ++ counted given ++ " argument(s)")
  | emptyAlias expr => ("alias", "empty alias for '" ++ expr ++ "'")
  | missingAlias expr => ("alias", "'" ++ expr ++ "' requires an explicit alias")
  | emptyTableName => ("table name", "must not be empty")
  | emptyTableAlias table => ("table alias", "empty alias for '" ++ table ++ "'")
  | negativeRowLimit count table =>
    ("row limit", numeral count.toInt ++ " for table '" ++ table ++ "' is negative")
  | emptyIdentifier => ("identifier", "must not be empty")
  | unquotableIdentifier name =>
    ("identifier", "'" ++ name ++ "' cannot be used without quoting")
  | unknownDefaultType => ("default value", "column type is unknown")
  | unknownSubstituteType column =>
    ("null-as-default", "no column type known for '" ++ column ++ "'")
  | subqueryWidth table columns =>
    ("subquery", "IN subquery on '" ++ table ++ "' must project exactly one column, got " ++
      counted columns)
  | nullBound => ("BETWEEN bounds", "must not be NULL")
  | nonFiniteLiteral x => ("float literal", x.toText ++ " has no SQL form")
  | noStorageType column dialect =>
    ("column type", "column '" ++ column ++ "' has no known type for " ++ dialect)
  | noInsertColumns table => ("INSERT", "no columns given for '" ++ table ++ "'")
  | noInsertRows table => ("INSERT", "no rows given for '" ++ table ++ "'")
  | insertRowWidth row values columns =>
    ("INSERT row", "row " ++ counted row ++ " has " ++ counted values ++ " values for " ++
      counted columns ++ " columns")
  | nothingToSet table => ("UPDATE", "nothing to set on '" ++ table ++ "'")
  | noKeyColumns table => ("UPDATE", "no key columns for '" ++ table ++ "'")
  | keyValueCount values keys =>
    ("key values", counted values ++ " values for " ++ counted keys ++ " key columns")
  | setValueCount values columns =>
    ("UPDATE values", counted values ++ " values for " ++ counted columns ++ " columns")
  | unknownDialect name => ("dialect", "unknown dialect '" ++ name ++ "'")
  | unregisteredTarget name => ("dialect alias", "'" ++ name ++ "' is not registered")
  | rowWidth values columns table =>
    ("row", counted values ++ " values for " ++ counted columns ++ " columns of '" ++ table ++ "'")
  | noSuchColumn column table =>
    ("column", "'" ++ column ++ "' does not exist in '" ++ table ++ "'")
  | wrongTable wanted actual =>
    ("table", "select reads '" ++ wanted ++ "', table is '" ++ actual ++ "'")
  | incomparable lhs rhs =>
    ("comparison", "cannot compare " ++ lhs.display ++ " with " ++ rhs.display)
  | nothingToWrite table => ("columns", "nothing to write into '" ++ table ++ "'")
  | columnTwice column table =>
    ("columns", "'" ++ column ++ "' listed twice for '" ++ table ++ "'")
  | noSuchSearchColumn column table =>
    ("search column", "'" ++ column ++ "' is not among the columns written to '" ++ table ++ "'")
  | noSearchColumn mode table =>
    ("search columns", mode.title ++ " into '" ++ table ++ "' needs at least one")
  | noColumnToSet mode table =>
    ("columns", mode.title ++ " into '" ++ table ++ "' has no column to set")

end Mistake

namespace Feature

def description : Feature → String
  | inSubquery => "IN (subquery)"
  | parameters => "query parameters"
  | tableAlias => "table aliases"
  | subqueryRowLimit => "row limit in a subquery"
  | aggregates => "aggregate functions"
  | multiRowInsert => "multi-row INSERT"
  | binaryLiterals => "binary literals"
  | function f => "function " ++ f.sql
  | qualifiedColumn path => "qualified column '" ++ path ++ "'"
  | selectStatements => "SELECT statements"

end Feature

namespace LiteralFault

/-- The place in the text, counted in bytes. -/
def position : LiteralFault → Nat
  | trailing position _ | badHexDigit position _ => position
  | _ => 0

def reason : LiteralFault → String
  | trailing _ rest => "unexpected trailing content: '" ++ rest ++ "'"
  | notLiteral rest =>
    "not a literal: Error(Error \x7b input: " ++ quoted rest ++ ", code: Digit \x7d)"
  | badNumber digits => "bad number '" ++ digits ++ "'"
  | badHexDigit _ digits => "bad hex digits in '" ++ digits ++ "'"
  | oddHexDigits digits => "odd hex digit count in '" ++ digits ++ "'"

end LiteralFault

namespace Fault

/-- The name of the family that a fault belongs to. -/
def kind : Fault → String
  | invalid _ => "InvalidArgument"
  | nullConstant => "NullConstant"
  | aliasCollision _ => "AliasCollision"
  | groupByInitialized _ => "GroupByInitialized"
  | groupByEmptyProjection _ => "GroupByEmptyProjection"
  | mixedAggregation _ => "MixedAggregation"
  | unsupported .. => "Unsupported"
  | statementTooLong .. => "StatementTooLong"
  | uncounted .. => "Invariant"
  | literal _ => "LiteralParse"
  | database _ => "Database"
  | connection _ => "Connection"
  | configuration _ => "Config"
  | io _ => "Io"
  | overflow => "panic"

def isUnsupported : Fault → Bool
  | unsupported .. => true
  | _ => false

def message : Fault → String
  | invalid mistake => "Invalid " ++ mistake.parts.1 ++ ": " ++ mistake.parts.2
  | nullConstant => "Null constant requires an explicit column type"
  | aliasCollision label => "Duplicate alias '" ++ label ++ "' in projection list"
  | groupByInitialized table => "GROUP BY already initialized for table '" ++ table ++ "'"
  | groupByEmptyProjection table =>
    "GROUP BY inference on table '" ++ table ++ "' needs a non-empty projection list"
  | mixedAggregation label => "Expression '" ++ label ++ "' mixes plain columns and aggregates"
  | unsupported dialect feature =>
    feature.description ++ " is not supported by the " ++ dialect ++ " dialect"
  | statementTooLong length limit =>
    "Statement length " ++ counted length ++ " exceeds the dialect limit of " ++ counted limit
  | uncounted statement table =>
    let verb := match statement with
      | .update => "UPDATE"
      | .insert => "INSERT"
    "Internal invariant violated: backend gave no affected-row count for " ++ verb ++ " on '" ++
      table ++ "'"
  | literal cause =>
    "Literal parse error at position " ++ counted cause.position ++ ": " ++ cause.reason
  | database text => "Database error: " ++ text
  | connection text => "Connection error: " ++ text
  | configuration text => "Configuration error: " ++ text
  | io text => "IO error: " ++ text
  | overflow => "attempt to negate with overflow"

end Fault

end SqlScribe

import SqlScribe.Dialect

/-!
# Data views

Filters over rows in memory. There is no database behind it: no statements, no parameters and no
qualified columns.
-/

namespace SqlScribe.Dialect.DataView

open SqlScribe.Text

def name : String := "DataView"

def features : Features where
  between := false
  inSubquery := false
  parameters := false
  parameterizedText := false
  tableAlias := false
  aggregates := false
  bulkLoad := false
  multiRowInsert := false
  parenthesizeFilters := false
  typeCorrection := false
  maxInList := 0
  maxBatchRows := 0
  maxParameters := 0
  maxStatementLength := 0

/-- The type that a column is stored as. -/
def storageType (c : Column) : Except Fault String :=
  if c.type = .unknown then noStorageType name c else .ok (c.type.name.map Char.toUpper)

def identifier (s : String) : Except Fault String :=
  if s.isEmpty then .error (.invalid .emptyIdentifier) else .ok (Identifier.escapeBracketed s)

def column (path : ColumnPath) : Except Fault String :=
  if path.isQualified then .error (.unsupported name (.qualifiedColumn path.fullName))
  else identifier path.name

def functionName (f : Func) : Except Fault String :=
  match f with
  | .length => .ok "LEN"
  | .upper | .lower | .abs => .error (.unsupported name (.function f))
  | f => .ok f.sql

/-- `SUBSTRING` takes a length in every case. -/
def specialCall : Func → List String → Option String
  | .substring, [text, start] =>
    some ("SUBSTRING(" ++ text ++ ", " ++ start ++ ", LEN(" ++ text ++ "))")
  | _, _ => none

def dialect : Dialect :=
  { standard name .bracket .driver features storageType with
    identifier
    column
    boolLiteral b := if b then "true" else "false"
    dateLiteral d := stamped "#" .slashedDate "#" (.startOf d)
    dateTimeLiteral := stamped "#" (onDay .slashedDate .clock) "#"
    binaryLiteral _ := .error (.unsupported name .binaryLiterals)
    functionName
    coalesce e fallback := "ISNULL(" ++ e ++ ", " ++ fallback ++ ")"
    concat parts := "(" ++ join " + " parts ++ ")"
    specialCall
    truth b := if b then "true" else "false"
    escapeLike := Like.escapeBrackets ['*', '%', '[', ']']
    likeEscapeClause := ""
    selects := false }

end SqlScribe.Dialect.DataView

import SqlScribe.Dialect

/-!
# Access

Text is never bound as a parameter, and dates are written to the second.
-/

namespace SqlScribe.Dialect.Access

open SqlScribe.Text

/-- The type that a column is stored as. -/
def storageType (c : Column) : Except Fault String :=
  match c.type with
  | .string => .ok (textType c 255 "TEXT" "MEMO")
  | .integer => .ok (integerType c ("BYTE", "SHORT", "LONG", "DECIMAL(19, 0)") true)
  | .float => .ok "DOUBLE"
  | .money => .ok "CURRENCY"
  | .boolean => .ok "BIT"
  | .date | .time | .dateTime => .ok "DATETIME"
  | .guid => .ok "GUID"
  | .binary => .ok "LONGBINARY"
  | .memo | .xml => .ok "MEMO"
  | .unknown => noStorageType "Access" c

def functionName : Func → String
  | .upper => "UCASE"
  | .lower => "LCASE"
  | .length => "LEN"
  | .substring => "MID"
  | f => f.sql

def dialect : Dialect :=
  { standard "Access" .bracket .top
      { inSubquery := false, parameterizedText := false, parenthesizeFilters := true,
        multiRowInsert := false, maxBatchRows := 1, maxStatementLength := 64000 }
      storageType with
    placeholder _ := "?"
    boolLiteral b := if b then "True" else "False"
    dateLiteral d := stamped "#" .dashedDate "#" (.startOf d)
    timeLiteral t := stamped "#" .clock "#" ⟨.first, t⟩
    dateTimeLiteral := stamped "#" (onDay .dashedDate .clock) "#"
    guidLiteral g := "'\x7b" ++ g.toText ++ "\x7d'"
    binaryLiteral _ := .error (.unsupported "Access" .binaryLiterals)
    functionName f := .ok (functionName f)
    coalesce e fallback := "IIF(" ++ e ++ " IS NULL, " ++ fallback ++ ", " ++ e ++ ")"
    concat parts := "(" ++ join " + " parts ++ ")"
    escapeLike := Like.escapeBrackets ['%', '_', '[']
    likeEscapeClause := "" }

end SqlScribe.Dialect.Access

import SqlScribe.Dialect

/-!
# Db2

A truth value is stored as one character, and a moment is written to the microsecond.
-/

namespace SqlScribe.Dialect.Db2

open SqlScribe.Text

/-- The type that a column is stored as. -/
def storageType (c : Column) : Except Fault String :=
  match c.type with
  | .string => .ok (textType c 32672 "VARCHAR" "CLOB")
  | .integer => .ok (integerType c ("SMALLINT", "SMALLINT", "INTEGER", "BIGINT") false)
  | .float => .ok "DOUBLE"
  | .money => .ok "DECIMAL(19, 4)"
  | .boolean => .ok "CHAR(1)"
  | .date => .ok "DATE"
  | .time => .ok "TIME"
  | .dateTime => .ok "TIMESTAMP"
  | .guid => .ok "CHAR(36)"
  | .binary => .ok "BLOB"
  | .memo => .ok "CLOB"
  | .xml => .ok "XML"
  | .unknown => noStorageType "Db2" c

/-- A moment; the conversion that reads it depends on whether there is a fraction of a second. -/
def dateTimeLiteral (m : DateTime) : String :=
  if m.time.nano = 0 then
    stamped "TO_DATE('" (onDay .dashedDate .clock) "', 'YYYY-MM-DD HH24:MI:SS')" m
  else
    stamped "TO_TIMESTAMP('" (onDay .dashedDate (Pattern.clock ++ [.microseconds]))
      "', 'YYYY-MM-DD HH24:MI:SS.FF6')" m

/-- A truth value is bound as its character. -/
def bound : Value → Value
  | .bool b => .string (if b then "1" else "0")
  | v => v

def dialect : Dialect :=
  { standard "Db2" .plain .driver
      { bulkLoad := true, maxParameters := 32767, maxStatementLength := 2097152 }
      storageType with
    boolLiteral b := if b then "'1'" else "'0'"
    dateLiteral d := stamped "TO_DATE('" .dashedDate "', 'YYYY-MM-DD')" (.startOf d)
    dateTimeLiteral
    binaryLiteral bytes := .ok ("BLOB(X'" ++ .ofList (upperHex bytes) ++ "')")
    functionName f := .ok (if f = .substring then "SUBSTR" else f.sql)
    prepare v type := (v.convert type).map bound }

end SqlScribe.Dialect.Db2

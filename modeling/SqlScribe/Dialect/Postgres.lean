import SqlScribe.Dialect

/-!
# PostgreSQL
-/

namespace SqlScribe.Dialect.Postgres

open SqlScribe.Text

/-- The type that a column is stored as. -/
def storageType (c : Column) : Except Fault String :=
  match c.type with
  | .string =>
    .ok (match c.maxLength with
      | some n => "VARCHAR(" ++ numeral n ++ ")"
      | none => "TEXT")
  | .integer => .ok (integerType c ("SMALLINT", "SMALLINT", "INTEGER", "BIGINT") false)
  | .float => .ok "DOUBLE PRECISION"
  | .money => .ok "NUMERIC(19, 4)"
  | .boolean => .ok "BOOLEAN"
  | .date => .ok "DATE"
  | .time => .ok "TIME"
  | .dateTime => .ok "TIMESTAMP"
  | .guid => .ok "UUID"
  | .binary => .ok "BYTEA"
  | .memo => .ok "TEXT"
  | .xml => .ok "XML"
  | .unknown => noStorageType "Postgres" c

/-- A NULL that carries its type. -/
def nullLiteral (type : ColumnType) : Except Fault String :=
  if type = .unknown then .ok "NULL"
  else do return "CAST(NULL AS " ++ (← storageType (.of "" type)) ++ ")"

def dialect : Dialect :=
  { standard "Postgres" .quote .limit { bulkLoad := true, maxParameters := 65535 } storageType with
    nullLiteral
    boolLiteral b := if b then "TRUE" else "FALSE"
    binaryLiteral bytes := .ok ("'\\x" ++ .ofList (lowerHex bytes) ++ "'::bytea") }

end SqlScribe.Dialect.Postgres

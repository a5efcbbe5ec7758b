import SqlScribe.Dialect

/-!
# SQLite

An identifier is stored as a blob of its bytes; what comes back from the database is converted to
the type of its column.
-/

namespace SqlScribe.Dialect.Sqlite

open SqlScribe.Text

/-- The type that a column is stored as. -/
def storageType (c : Column) : Except Fault String :=
  match c.type with
  | .string | .memo | .xml => .ok "TEXT"
  | .integer => .ok (integerType c ("TINYINT", "SMALLINT", "INT", "BIGINT") false)
  | .float => .ok "REAL"
  | .money => .ok "NUMERIC"
  | .boolean => .ok "BOOLEAN"
  | .date => .ok "DATE"
  | .time => .ok "TIME"
  | .dateTime => .ok "DATETIME"
  | .guid | .binary => .ok "BLOB"
  | .unknown => noStorageType "Sqlite" c

/-- An identifier is bound as its blob. -/
def bound : Value → Value
  | .guid g => .binary g.toBlob
  | v => v

def dialect : Dialect :=
  { standard "Sqlite" .quote .limit
      { typeCorrection := true, maxBatchRows := 500, maxParameters := 999,
        maxStatementLength := 1000000 }
      storageType with
    placeholder i := ":P" ++ numeral (i + 1)
    guidLiteral g := "X'" ++ .ofList (upperHex g.toBlob) ++ "'"
    functionName f := .ok (if f = .substring then "SUBSTR" else f.sql)
    prepare v type := (v.convert type).map bound
    correct := Value.convert }

end SqlScribe.Dialect.Sqlite

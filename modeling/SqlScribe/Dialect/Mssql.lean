import SqlScribe.Dialect

/-!
# SQL Server
-/

namespace SqlScribe.Dialect.Mssql

open SqlScribe.Text

/-- The type that a column is stored as. -/
def storageType (c : Column) : Except Fault String :=
  match c.type with
  | .string => .ok (textType c 4000 "NVARCHAR" "NVARCHAR(MAX)")
  | .integer => .ok (integerType c ("TINYINT", "SMALLINT", "INT", "BIGINT") true)
  | .float => .ok "FLOAT"
  | .money => .ok "DECIMAL(19, 4)"
  | .boolean => .ok "BIT"
  | .date => .ok "DATE"
  | .time => .ok "TIME"
  | .dateTime => .ok "DATETIME2"
  | .guid => .ok "UNIQUEIDENTIFIER"
  | .binary => .ok "VARBINARY(MAX)"
  | .memo => .ok "NVARCHAR(MAX)"
  | .xml => .ok "XML"
  | .unknown => noStorageType "MsSql" c

/-- `SUBSTRING` takes a length in every case, and there is no `TRIM`. -/
def specialCall : Func → List String → Option String
  | .substring, [text, start] =>
    some ("SUBSTRING(" ++ text ++ ", " ++ start ++ ", LEN(" ++ text ++ "))")
  | .trim, [text] => some ("LTRIM(RTRIM(" ++ text ++ "))")
  | _, _ => none

def dialect : Dialect :=
  { standard "MsSql" .bracket .top
      { bulkLoad := true, maxInList := 1000, maxBatchRows := 1000, maxParameters := 2100 }
      storageType with
    textLiteral s := "N" ++ quotedText s
    dateLiteral d := stamped "'" .compactDate "'" (.startOf d)
    dateTimeLiteral := stamped "'" (onDay .compactDate .preciseClock) "'"
    binaryLiteral bytes := .ok ("0x" ++ .ofList (upperHex bytes))
    functionName f := .ok (if f = .length then "LEN" else f.sql)
    coalesce e fallback := "ISNULL(" ++ e ++ ", " ++ fallback ++ ")"
    concat parts := "(" ++ join " + " parts ++ ")"
    specialCall
    escapeLike := Like.escapeBrackets ['%', '_', '[']
    likeEscapeClause := "" }

end SqlScribe.Dialect.Mssql

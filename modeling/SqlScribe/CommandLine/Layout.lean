import SqlScribe.Dialect.Registry
import SqlScribe.Document.Statement
import SqlScribe.Literal.Reader
import SqlScribe.Table

/-!
# What the command line prints

Every result as text, in columns or as a document.
-/

namespace SqlScribe

open SqlScribe.Text

namespace CommandLine

/-- Lines, each with its end. -/
def lines (ls : List String) : String := String.join (ls.map (· ++ "\n"))

/-- A text between spaces on the left, up to a least number of characters. -/
def padLeft (width : Nat) (s : String) : String :=
  .ofList (List.replicate (width - s.length) ' ') ++ s

/-- A rule of so many characters. -/
def rule (width : Nat) : String := .ofList (List.replicate width '─')

/-- A statement with its parameters. -/
def statementText (s : Statement) : String :=
  let params := s.params.zipIdx.map fun (p, i) =>
    "  #" ++ numeral (i + 1) ++ " = " ++ p.value.display ++ " " ++ p.type.name
  lines (["Generated SQL:", s.sql] ++
    (if params.isEmpty then [] else ["", "Parameters:"] ++ params) ++
    match s.maxRows with
    | some rows => ["", "Driver row cap: " ++ numeral rows]
    | none => [])

/-- A limit, where 0 stands for none. -/
def limitText (n : Nat) : String := if n = 0 then "-" else numeral n

/-- One line of the list of dialects. -/
def dialectLine (cells : String × String × String × String × String) (batch inList length : String) :
    String :=
  let (name, between, subquery, params, bulk) := cells
  padRight 10 name ++ " " ++ padRight 9 between ++ " " ++ padRight 9 subquery ++ " " ++
    padRight 8 params ++ " " ++ padRight 8 bulk ++ " " ++ batch ++ " " ++ padRight 10 inList ++
    " " ++ length

/-- The registered dialects with what they can do. -/
def dialectsText (r : Registry) : String :=
  let yesNo (b : Bool) := if b then "yes" else "no"
  lines ([dialectLine ("Name", "Between", "Subquery", "Params", "Bulk") (padRight 8 "Batch") "In-list"
      "Max length", rule 80] ++
    r.dialects.map fun (name, d) =>
      let f := d.features
      dialectLine (name, yesNo f.between, yesNo f.inSubquery, yesNo f.parameters, yesNo f.bulkLoad)
        (padLeft 8 (numeral (f.batchRows 1))) (limitText f.maxInList)
        (limitText f.maxStatementLength))

/-- The registered dialects as a document. -/
def dialectsJson (r : Registry) : Json :=
  .object (r.dialects.map fun (name, d) => (name, d.features.toJson))

/-- The default of a type as a literal, and what it is read back as. -/
def defaultLine (d : Dialect) (type : ColumnType) : String :=
  "  " ++ padRight 10 type.name ++ " " ++
    match d.defaultLiteral type with
    | .error fault => fault.message
    | .ok literal =>
      padRight 40 literal ++ " " ++
        match Value.ofLiteral literal type with
        | .ok value => value.display
        | .error fault => fault.message

/-- The defaults of all types. -/
def defaultsText (d : Dialect) : String :=
  lines (["Default values for " ++ d.name, ""] ++ ColumnType.known.map (defaultLine d))

/-- A cell of a table. -/
def cellText (v : Value) : String := if v.isNull then "NULL" else v.plainText

/-- The width of every column in bytes: that of its longest text. -/
def widths (r : ResultSet) : List Nat :=
  r.rows.foldl
    (fun widths row => widths.zipIdx.map fun (width, i) =>
      max width (((row[i]?).map fun v => (cellText v).utf8ByteSize).getD 0))
    (r.columns.map String.utf8ByteSize)

/-- A result as a table. -/
def resultText (r : ResultSet) : String :=
  let widths := widths r
  let line (cells : List String) : String :=
    join " │ " ((cells.zip widths).map fun (cell, width) => padRight width cell)
  lines ([line r.columns, join "─┼─" (widths.map rule)] ++
    r.rows.map (fun row => line (row.map cellText)) ++
    ["", numeral r.rows.length ++ " row(s) returned"])

/-- A result as a list of documents, every cell as text. -/
def resultJson (r : ResultSet) : Json :=
  .array (r.rows.map fun row =>
    .object (r.columns.zip (row.map fun v => .string v.plainText)))

/-- The counters of a session. -/
def summaryText (s : Summary) : String :=
  "✓ " ++ numeral s.inserted.toNat ++ " inserted, " ++ numeral s.updated.toNat ++ " updated, " ++
    numeral s.merged.toNat ++ " merged, " ++ numeral s.unmatched.toNat ++ " unmatched\n"

end CommandLine

end SqlScribe

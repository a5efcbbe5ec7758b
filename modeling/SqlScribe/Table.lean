import SqlScribe.Schema
import SqlScribe.Value.Conversion

/-!
# Tables in memory

A table holds rows in the order in which they were added, every cell converted to the type of its
column.
-/

namespace SqlScribe

open SqlScribe.Text

/-- The cells of a row, in column order. -/
abbrev Row := List Value

/-- The names of the result columns, and the rows. -/
structure ResultSet where
  columns : List String
  rows : List Row

/-- A table with its rows. -/
structure Table where
  name : String
  columns : List Column
  rows : List Row

namespace Table

/-- An empty table; its name and its columns must make sense. -/
def create (name : String) (columns : List Column) : Except Fault Table :=
  if isAllBlank name then .error (.invalid .emptyTableName)
  else do
    columns.forM Column.validate
    return ⟨name, columns, []⟩

/-- A row with every cell converted to the type of its column. -/
def convertRow (columns : List Column) (row : Row) : Except Fault Row :=
  (row.zip columns).mapM fun (value, column) => value.convert column.type

/-- The table with one more row. -/
def push (t : Table) (row : Row) : Except Fault Table :=
  if row.length ≠ t.columns.length then
    .error (.invalid (.rowWidth row.length t.columns.length t.name))
  else do
    let row ← convertRow t.columns row
    return { t with rows := t.rows ++ [row] }

end Table

end SqlScribe

import SqlScribe.Statement

/-!
# INSERT

Rows are written in column order, one group of parentheses for each row.
-/

namespace SqlScribe

open SqlScribe.Text Emit

/-- Rows to append to a table. -/
structure Insert where
  table : String
  columns : List Column
  rows : List (List Value)

namespace Insert

/-- There is a column and a row, and the dialect can write that many rows at once. -/
def check (d : Dialect) (i : Insert) : Except Fault Unit :=
  if i.columns.isEmpty then .error (.invalid (.noInsertColumns i.table))
  else if i.rows.isEmpty then .error (.invalid (.noInsertRows i.table))
  else if 1 < i.rows.length ∧ !d.features.multiRowInsert then d.lacks .multiRowInsert
  else .ok ()

/-- The values of one row, separated by commas. -/
def emitCells (d : Dialect) (cells : List (Value × Column)) : Emit Unit :=
  separated ", " (cells.map fun cell => Emit.value d cell.1 cell.2.type)

/-- Further rows, of which the first one has the number `index`. -/
def emitRows (d : Dialect) (columns : List Column) (index : Nat) : List (List Value) → Emit Unit
  | [] => pure ()
  | row :: rest => do
    if row.length ≠ columns.length then
      attempt (.error (.invalid (.insertRowWidth index row.length columns.length)))
    text (if index = 0 then "(" else ", (")
    emitCells d (row.zip columns)
    text ")"
    emitRows d columns (index + 1) rest

/-- Writes the statement. -/
def emit (d : Dialect) (i : Insert) : Emit Unit := do
  attempt (i.check d)
  text "INSERT INTO "
  text (← attempt (d.tableName i.table))
  let names ← attempt (i.columns.mapM fun c => d.identifier c.name)
  text (" (" ++ join ", " names ++ ") VALUES ")
  emitRows d i.columns 0 i.rows

/-- The statement. -/
def compile (d : Dialect) (mode : ParamMode) (i : Insert) : Except Fault Statement :=
  Emit.compile d mode (i.emit d)

end Insert

end SqlScribe

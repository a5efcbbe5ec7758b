import SqlScribe.Table

/-!
# Staged rows

Rows that wait for the next flush, in the order in which they came. With key columns, the row staged
last under a key can be found again.
-/

namespace SqlScribe

namespace Value

/-- What a value counts as in a key: amounts and zeros of equal number are one. -/
def keyImage : Value → Value
  | float x => .float (if x.equals .zero then .zero else x)
  | money d => .money d.normalize
  | v => v

end Value

/-- The key of a row: the images of its key cells. -/
abbrev RowKey := List Value

/-- The key of a row; a cell that the row lacks counts as NULL. -/
def Row.key (keyColumns : List Nat) (row : Row) : RowKey :=
  keyColumns.map fun i => (row[i]?.getD .null).keyImage

/-- Rows waiting to be written. The index tells under which key which position was pushed, the
latest one first. -/
structure Staging where
  keyColumns : List Nat
  rows : List Row
  index : List (RowKey × Nat)
deriving DecidableEq

namespace Staging

def empty (keyColumns : List Nat) : Staging := ⟨keyColumns, [], []⟩

/-- The position of the row staged last under the key of a row. -/
def find? (s : Staging) (row : Row) : Option Nat :=
  if s.keyColumns.isEmpty then none else s.index.lookup (row.key s.keyColumns)

/-- Adds a row at the end. -/
def push (s : Staging) (row : Row) : Staging where
  keyColumns := s.keyColumns
  rows := s.rows ++ [row]
  index := if s.keyColumns.isEmpty then s.index
    else (row.key s.keyColumns, s.rows.length) :: s.index

/-- A row with the cells at some places taken from another row, where both have them. -/
def mergeCells (places : List Nat) (old new : Row) : Row :=
  old.mapIdx fun i v => if places.contains i then new[i]?.getD v else v

/-- Overwrites cells of the row at a position. -/
def overwrite (s : Staging) (position : Nat) (places : List Nat) (row : Row) : Staging :=
  { s with rows := s.rows.modify position fun old => mergeCells places old row }

/-- No row is left waiting. -/
def clear (s : Staging) : Staging := empty s.keyColumns

end Staging

end SqlScribe

/-!
# What a database can do

The features and limits that a dialect states, and how many rows one INSERT may carry under them.
-/

namespace SqlScribe

/-- How a dialect writes identifiers. -/
inductive Quoting
  /-- As plain words, which only some names can be. -/
  | plain
  | bracket
  | quote
deriving DecidableEq

/-- Where a dialect states a cap on the number of rows. -/
inductive RowLimit
  /-- In front of the result columns. -/
  | top
  /-- At the end of the statement. -/
  | limit
  /-- Nowhere: whoever reads the result applies it. -/
  | driver
deriving DecidableEq

/-- What a database understands, and its limits, where 0 stands for none. -/
structure Features where
  between : Bool := true
  inSubquery : Bool := true
  parameters : Bool := true
  parameterizedText : Bool := true
  tableAlias : Bool := true
  aggregates : Bool := true
  bulkLoad : Bool := false
  multiRowInsert : Bool := true
  parenthesizeFilters : Bool := false
  typeCorrection : Bool := false
  maxInList : Nat := 0
  maxBatchRows : Nat := 1000
  maxParameters : Nat := 0
  maxStatementLength : Nat := 0
deriving DecidableEq

namespace Features

/-- The greatest number of rows that one INSERT of so many columns carries; always at least one. -/
def batchRows (f : Features) (columns : Nat) : Nat :=
  let rows := if f.maxBatchRows = 0 then 1000 else f.maxBatchRows
  let rows := if f.multiRowInsert then rows else 1
  let rows := if 0 < f.maxParameters ∧ 0 < columns then min rows (f.maxParameters / columns) else rows
  max rows 1

theorem one_le_batchRows (f : Features) (columns : Nat) : 1 ≤ f.batchRows columns :=
  Nat.le_max_right _ _

end Features

end SqlScribe

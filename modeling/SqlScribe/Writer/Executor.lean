import SqlScribe.Statement.Insert
import SqlScribe.Table

/-!
# Executors

Whatever runs the statements of a writing session. It has a state of its own, which a call changes
whether it succeeds or not.
-/

namespace SqlScribe

/-- Many rows to be written at once, in column order. -/
structure BulkLoad where
  table : String
  columns : List Column
  rows : List Row
  /-- The keys are the caller's and have to be kept as they are. -/
  keepIdentity : Bool
deriving DecidableEq

/-- A call to an executor. -/
abbrev Answer (σ α : Type) := ExceptT Fault (StateM σ) α

/-- A runner of statements with states of type `σ`. -/
structure Executor (σ : Type) where
  /-- Runs a statement; the answer is the number of rows it touched, if that is known. -/
  execute : Statement → Answer σ (Option UInt64)
  /-- Writes many rows and answers how many it wrote. -/
  bulkLoad : BulkLoad → Answer σ UInt64

/-- What a session calls. Every statement comes with the cells that it was compiled for, so that
rules about what a call does can be given in terms of rows. -/
structure Backend (σ : Type) where
  /-- Runs the UPDATE that sets some cells where the key has some cells. -/
  update (set keys : List Value) (statement : Statement) : Answer σ (Option UInt64)
  /-- Runs the INSERT of some rows. -/
  insert (rows : List Row) (statement : Statement) : Answer σ (Option UInt64)
  /-- Writes many rows and answers how many it wrote. -/
  bulkLoad (load : BulkLoad) : Answer σ UInt64

/-- An executor sees the statements only. -/
def Executor.backend {σ : Type} (x : Executor σ) : Backend σ where
  update _ _ := x.execute
  insert _ := x.execute
  bulkLoad := x.bulkLoad

end SqlScribe

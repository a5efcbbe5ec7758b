import SqlScribe.Statement.Filter

/-!
# DELETE
-/

namespace SqlScribe

open Emit

/-- The rows of a table that satisfy a condition, or all of them, are to go. -/
structure Delete where
  table : String
  filter : Option Filter

namespace Delete

/-- Writes the statement. -/
def emit (d : Dialect) (x : Delete) : Emit Unit := do
  text "DELETE FROM "
  text (← attempt (d.tableName x.table))
  Filter.emitCondition d " WHERE " x.filter

/-- The statement. -/
def compile (d : Dialect) (mode : ParamMode) (x : Delete) : Except Fault Statement :=
  Emit.compile d mode (x.emit d)

end Delete

end SqlScribe

import SqlScribe.Fault
import SqlScribe.Text.Blank

/-!
# Column paths

A column is named by a path, its parts separated by points: a schema and a table may stand before
the name of the column itself.
-/

namespace SqlScribe

open SqlScribe.Text

/-- The parts of a column's name, the column itself last. -/
structure ColumnPath where
  parts : List String
deriving DecidableEq

namespace ColumnPath

/-- Cuts a text at its points and trims the parts, without any check. -/
def ofText (s : String) : ColumnPath := ⟨(splitAt '.' s).map trim⟩

/-- The path that a text names; none of its parts may be empty. -/
def parse (s : String) : Except Fault ColumnPath :=
  if isAllBlank s then .error (.invalid .emptyColumnName)
  else if (ofText s).parts.any (·.isEmpty) then .error (.invalid (.emptyPathSegment s))
  else .ok (ofText s)

/-- The name of the column itself. -/
def name (c : ColumnPath) : String := c.parts.getLast?.getD ""

/-- More than the column itself is named. -/
def isQualified (c : ColumnPath) : Bool := 1 < c.parts.length

/-- The whole path as text. -/
def fullName (c : ColumnPath) : String := join "." c.parts

end ColumnPath

end SqlScribe

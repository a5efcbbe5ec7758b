import SqlScribe.Statement.Filter

/-!
# UPDATE

Columns are set where a condition holds. An UPDATE over fixed columns can be prepared: its text is
written once, and only the parameters change from row to row.
-/

namespace SqlScribe

open SqlScribe.Text Emit

/-- Values to set in the rows of a table that satisfy a condition. -/
structure Update where
  table : String
  set : List (Column × Value)
  filter : Option Filter

namespace Update

/-- One column and the value it is set to. -/
def emitAssignment (d : Dialect) (assignment : Column × Value) : Emit Unit := do
  text (← attempt (d.identifier assignment.1.name))
  text " = "
  Emit.value d assignment.2 assignment.1.type

/-- Writes the statement. -/
def emit (d : Dialect) (u : Update) : Emit Unit := do
  if u.set.isEmpty then attempt (.error (.invalid (.nothingToSet u.table)))
  text "UPDATE "
  text (← attempt (d.tableName u.table))
  text " SET "
  separated ", " (u.set.map (emitAssignment d))
  Filter.emitCondition d " WHERE " u.filter

/-- The statement. -/
def compile (d : Dialect) (mode : ParamMode) (u : Update) : Except Fault Statement :=
  Emit.compile d mode (u.emit d)

end Update

namespace Filter

/-- One key column has one value; a NULL is looked for with `IS NULL`. -/
def hasKeyValue (key : Column) (value : Value) : Except Fault Filter := do
  let expr := Expr.column (← ColumnPath.parse key.name)
  if value.isNull then return compareNull expr false
  else return compare expr .eq (← Constant.typed value key.type) false

/-- The key columns have these values. -/
def hasKey (keys : List Column) (values : List Value) : Except Fault Filter :=
  if keys.length ≠ values.length then
    .error (.invalid (.keyValueCount values.length keys.length))
  else do
    match ← (keys.zip values).mapM fun (key, value) => hasKeyValue key value with
    | [part] => return part
    | parts => return and parts

end Filter

/-- An UPDATE over fixed columns and fixed keys. The template is there if the text is the same for
all values, a NULL key apart. -/
structure PreparedUpdate where
  table : String
  set : List Column
  keys : List Column
  mode : ParamMode
  template : Option Statement
deriving DecidableEq

namespace PreparedUpdate

/-- The statement for one row, written out. -/
def write (p : PreparedUpdate) (d : Dialect) (setValues keyValues : List Value) :
    Except Fault Statement := do
  let filter ← Filter.hasKey p.keys keyValues
  Update.compile d p.mode ⟨p.table, p.set.zip setValues, some filter⟩

/-- Every value becomes a parameter. -/
def isBindable (d : Dialect) (columns : List Column) : Bool :=
  d.features.parameters &&
    (d.features.parameterizedText || !columns.any (·.type.isText))

/-- The values that stand for NULL in columns. -/
def defaults (d : Dialect) (columns : List Column) : List Value :=
  columns.map fun c => d.defaultValue c.type

/-- Prepares an UPDATE. The template is written with the defaults of the columns. -/
def prepare (d : Dialect) (table : String) (set keys : List Column) :
    Except Fault PreparedUpdate := do
  if keys.isEmpty then .error (.invalid (.noKeyColumns table))
  let plain : PreparedUpdate := ⟨table, set, keys, d.preferredMode, none⟩
  if isBindable d (set ++ keys) then
    let template ← plain.write d (defaults d set) (defaults d keys)
    return { plain with template := some { template with params := [] } }
  else return plain

/-- The parameters for one row, the values to set first. -/
def params (p : PreparedUpdate) (d : Dialect) (setValues keyValues : List Value) :
    Except Fault (List Param) :=
  ((setValues ++ keyValues).zip (p.set ++ p.keys)).mapM fun (value, column) => do
    return ⟨← d.prepare value column.type, column.type⟩

/-- The statement for one row: the template with new parameters, or a text of its own where there is
no template or a key is NULL. -/
def bind (p : PreparedUpdate) (d : Dialect) (setValues keyValues : List Value) :
    Except Fault Statement := do
  if setValues.length ≠ p.set.length then
    .error (.invalid (.setValueCount setValues.length p.set.length))
  match p.template with
  | none => p.write d setValues keyValues
  | some template =>
    if keyValues.any (·.isNull) || keyValues.length ≠ p.keys.length then
      p.write d setValues keyValues
    else return { template with params := ← p.params d setValues keyValues }

end PreparedUpdate

end SqlScribe

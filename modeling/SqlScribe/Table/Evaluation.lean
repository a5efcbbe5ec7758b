import SqlScribe.Query.Expr
import SqlScribe.Table
import SqlScribe.Text.CaseMapping

/-!
# Evaluating expressions

An expression is evaluated over one row of a table. Except for `COALESCE`, a function of NULL is
NULL. There are no aggregates and no qualified columns here. The magnitude of the least integer is
no integer, and whoever asks for it stops the program.
-/

namespace SqlScribe

open SqlScribe.Text

namespace Func

/-- The integer that an argument stands for. -/
def integerArgument (v : Value) : Except Fault Int64 := do
  match ← v.convert .integer with
  | .int n => return n
  | _ => .error (.invalid (.conversion v .integer))

/-- The part of a text from a position on, counted from 1, of at most some length. -/
def slice (cs : List Char) (start : Int64) (count : Option Int64) : List Char :=
  let rest := cs.drop (start.toInt - 1).toNat
  match count with
  | some n => rest.take n.toInt.toNat
  | none => rest

/-- A function of values that are not NULL. -/
def ofValues (f : Func) (args : List Value) : Except Fault Value :=
  match f, args with
  | concat, args => .ok (.string (String.join (args.map Value.plainText)))
  | upper, [v] => .ok (.string (upperCase v.plainText))
  | lower, [v] => .ok (.string (lowerCase v.plainText))
  | trim, [v] => .ok (.string (Text.trim v.plainText))
  | length, [v] => .ok (.int (.ofNat v.plainText.length))
  | abs, [.int n] => if n = Int64.minValue then .error .overflow else .ok (.int n.abs)
  | abs, [.float x] => .ok (.float x.abs)
  | abs, [.money d] => .ok (.money d.abs)
  | substring, [v, start] => do
    return .string (.ofList (slice v.plainText.toList (← integerArgument start) none))
  | substring, v :: start :: count :: _ => do
    let start ← integerArgument start
    let count ← integerArgument count
    return .string (.ofList (slice v.plainText.toList start (some count)))
  | f, args => .error (.invalid (.notEvaluable f args.length))

/-- The value of a function. -/
def eval (f : Func) (args : List Value) : Except Fault Value :=
  if f = coalesce then .ok ((args.find? (!·.isNull)).getD .null)
  else if args.any (·.isNull) then .ok .null
  else f.ofValues args

end Func

namespace Table

/-- The name under which a table refuses what it cannot evaluate. -/
def engineName : String := "DataView"

/-- The place of the column that a path names. -/
def position (t : Table) (path : ColumnPath) : Except Fault Nat :=
  if path.isQualified then .error (.unsupported engineName (.qualifiedColumn path.fullName))
  else
    match t.columns.findIdx? fun c => sameName c.name path.name with
    | some i => .ok i
    | none => .error (.invalid (.noSuchColumn path.name t.name))

mutual

/-- The value of an expression over a row; a cell that the row lacks is NULL. -/
def eval (t : Table) (row : Row) : Expr → Except Fault Value
  | .constant c => .ok c.value
  | .column path => do return row[← t.position path]?.getD .null
  | .function f args => do
    f.checkArguments args.length
    f.eval (← t.evalList row args)
  | .aggregate _ _ => .error (.unsupported engineName .aggregates)

def evalList (t : Table) (row : Row) : List Expr → Except Fault (List Value)
  | [] => .ok []
  | e :: rest => do
    let v ← t.eval row e
    return v :: (← t.evalList row rest)

end

/-- The value of an expression, where a plain column counts as the default of a type when it is
NULL. -/
def evalOrDefault (t : Table) (row : Row) (e : Expr) (type : ColumnType) : Except Fault Value := do
  let v ← t.eval row e
  return if v.isNull && e.asColumn?.isSome then type.default else v

end Table

end SqlScribe

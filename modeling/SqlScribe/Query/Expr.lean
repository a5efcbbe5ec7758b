import SqlScribe.Query.ColumnPath
import SqlScribe.Query.Constant

/-!
# Scalar expressions

Expressions over the columns of a row, and what can be said of one without looking at data: which
columns it reads, whether it aggregates, and what type it has.
-/

namespace SqlScribe

open SqlScribe.Text

/-- An expression; the aggregate without argument counts rows. -/
inductive Expr
  | constant (c : Constant)
  | column (path : ColumnPath)
  | function (f : Func) (args : List Expr)
  | aggregate (f : Aggregate) (arg : Option Expr)

/-- How an expression relates to groups of rows. -/
inductive Aggregation
  | constant
  | columns
  | aggregate
  | mixed
deriving DecidableEq

/-- The name of a class. -/
def Aggregation.name : Aggregation → String
  | constant => "constant"
  | columns => "columns"
  | aggregate => "aggregate"
  | mixed => "mixed"

/-- The class of two expressions taken together. -/
def Aggregation.merge : Aggregation → Aggregation → Aggregation
  | mixed, _ | _, mixed => mixed
  | constant, x | x, constant => x
  | columns, columns => columns
  | aggregate, aggregate => aggregate
  | columns, aggregate | aggregate, columns => mixed

namespace Func

/-- Refuses a wrong number of arguments. -/
def checkArguments (f : Func) (count : Nat) : Except Fault Unit :=
  if f.takes count then .ok () else .error (.invalid (.argumentCount f count))

end Func

namespace Expr

/-- The column that a text names. -/
def parseColumn (path : String) : Except Fault Expr := return .column (← ColumnPath.parse path)

/-- A function of the right number of arguments. -/
def call (f : Func) (args : List Expr) : Except Fault Expr := do
  f.checkArguments args.length
  return .function f args

/-- The column that an expression is, if it is no more than that. -/
def asColumn? : Expr → Option ColumnPath
  | column path => some path
  | _ => none

mutual

/-- What the columns and aggregates in an expression make of it. -/
def aggregation : Expr → Aggregation
  | constant _ => .constant
  | column _ => .columns
  | aggregate _ _ => .aggregate
  | function _ args => aggregationOf .constant args

/-- The class `seen` merged with those of further expressions. -/
def aggregationOf (seen : Aggregation) : List Expr → Aggregation
  | [] => seen
  | e :: rest => aggregationOf (seen.merge e.aggregation) rest

end

mutual

/-- An aggregate stands somewhere in the expression. -/
def containsAggregate : Expr → Bool
  | aggregate _ _ => true
  | function _ args => anyAggregate args
  | _ => false

def anyAggregate : List Expr → Bool
  | [] => false
  | e :: rest => e.containsAggregate || anyAggregate rest

end

mutual

/-- The full names of the columns that an expression reads, in reading order. -/
def columns : Expr → List String
  | constant _ => []
  | column path => [path.fullName]
  | function _ args => columnsOf args
  | aggregate _ none => []
  | aggregate _ (some e) => e.columns

def columnsOf : List Expr → List String
  | [] => []
  | e :: rest => e.columns ++ columnsOf rest

end

mutual

/-- The type that an expression is known to have, whatever the data. -/
def typeHint : Expr → ColumnType
  | constant c => c.type
  | function .length _ => .integer
  | function .upper _ | function .lower _ | function .trim _ | function .concat _
  | function .substring _ => .string
  | function _ args => firstTypeHint args
  | aggregate .count _ => .integer
  | aggregate _ (some e) => e.typeHint
  | _ => .unknown

/-- The first type known among several expressions. -/
def firstTypeHint : List Expr → ColumnType
  | [] => .unknown
  | e :: rest => if e.typeHint = .unknown then firstTypeHint rest else e.typeHint

end

mutual

/-- The expression as a message shows it. -/
def display : Expr → String
  | constant c => c.value.display
  | column path => path.fullName
  | function f args => f.sql ++ "(" ++ displayList args ++ ")"
  | aggregate f (some e) => f.sql ++ "(" ++ e.display ++ ")"
  | aggregate f none => f.sql ++ "(*)"

def displayList : List Expr → String
  | [] => ""
  | [e] => e.display
  | e :: rest => e.display ++ ", " ++ displayList rest

end

mutual

/-- The same expression, with constants compared by value. -/
def equals : Expr → Expr → Bool
  | constant a, constant b => a.equals b
  | column a, column b => a == b
  | function f args, function g others => f == g && equalLists args others
  | aggregate f none, aggregate g none => f == g
  | aggregate f (some a), aggregate g (some b) => f == g && a.equals b
  | _, _ => false

def equalLists : List Expr → List Expr → Bool
  | [], [] => true
  | a :: as, b :: bs => a.equals b && equalLists as bs
  | _, _ => false

end

end Expr

end SqlScribe

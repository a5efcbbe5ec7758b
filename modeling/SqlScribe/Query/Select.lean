import SqlScribe.Query.Projection
import SqlScribe.Schema

/-!
# Filters and queries

A filter is a condition on a row; it may hold a query, and a query may hold filters. The shape of a
query is therefore given over any kind of filter first.
-/

namespace SqlScribe

open SqlScribe.Text

/-- One term of an ordering; a substitute takes the place of NULL. -/
structure OrderTerm where
  expr : Expr
  direction : Direction
  substitute : Option Expr

/-- An ordering, its most significant term first. -/
abbrev Order := List OrderTerm

/-- The columns that an ordering reads. -/
def Order.columns (order : Order) : List String :=
  order.flatMap fun term => term.expr.columns ++ (term.substitute.map Expr.columns).getD []

/-- A query whose conditions are of some kind; a cap of zero rows is none. -/
structure QueryOf (Condition : Type) where
  table : String
  tableAlias : Option String
  columns : Projection
  filter : Option Condition
  groupBy : List Expr
  having : Option Condition
  order : Option Order
  maxRows : Nat
  distinct : Bool

/-- A condition on a row. -/
inductive Filter
  | compare (expr : Expr) (op : Comparison) (value : Constant) (nullAsDefault : Bool)
  | compareNull (expr : Expr) (negated : Bool)
  | oneOf (expr : Expr) (values : List Constant)
  | startsWith (expr : Expr) (start : String)
  | contains (expr : Expr) (needle : String)
  | inSubquery (expr : Expr) (subquery : QueryOf Filter)
  | between (expr : Expr) (low high : Constant)
  | constant (b : Bool)
  | and (parts : List Filter)
  | or (parts : List Filter)
  | not (part : Filter)

/-- A query. -/
abbrev Select := QueryOf Filter

namespace Filter

/-- Both conditions; conjunctions are merged into one. -/
def conjoin : Filter → Filter → Filter
  | and fs, and gs => and (fs ++ gs)
  | and fs, g => and (fs ++ [g])
  | f, and gs => and (f :: gs)
  | f, g => and [f, g]

/-- Either condition; disjunctions are merged into one. -/
def disjoin : Filter → Filter → Filter
  | or fs, or gs => or (fs ++ gs)
  | or fs, g => or (fs ++ [g])
  | f, or gs => or (f :: gs)
  | f, g => or [f, g]

/-- The opposite condition; two negations cancel. -/
def negate : Filter → Filter
  | not f => f
  | constant b => constant (!b)
  | f => not f

mutual

/-- The columns that a condition reads, those of its subqueries not included. -/
def columns : Filter → List String
  | compare e _ _ _ | compareNull e _ | oneOf e _ | startsWith e _ | contains e _
  | inSubquery e _ | between e _ _ => e.columns
  | constant _ => []
  | and parts | or parts => columnsOf parts
  | not part => part.columns

def columnsOf : List Filter → List String
  | [] => []
  | f :: rest => f.columns ++ columnsOf rest

end

end Filter

namespace QueryOf

/-- The ordering, if it has a term. -/
def ordering? (q : Select) : Option Order := q.order.filter (!·.isEmpty)

/-- The columns that a query reads. -/
def columnsRead (q : Select) : List String :=
  q.columns.items.flatMap (·.expr.columns) ++ (q.filter.map Filter.columns).getD [] ++
    q.groupBy.flatMap Expr.columns ++ (q.having.map Filter.columns).getD [] ++
    (q.order.map Order.columns).getD []

/-- The types of the result columns: those of the schema where a column is meant, and otherwise
what the expression tells. -/
def resultTypes (q : Select) (schema : List Column) : List ColumnType :=
  if q.columns.isEmpty then schema.map Column.type
  else
    q.columns.items.map fun n =>
      match n.expr.asColumn? with
      | some path => ((schema.find? fun c => sameName c.name path.name).map Column.type).getD .unknown
      | none => n.expr.typeHint

end QueryOf

end SqlScribe

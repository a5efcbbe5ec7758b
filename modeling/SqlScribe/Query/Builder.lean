import SqlScribe.Query.Select

/-!
# Building queries

Short forms for conditions, and a query under construction. Every step of the construction either
gives the query with one thing added or says why it cannot be added.
-/

namespace SqlScribe

open SqlScribe.Text

namespace Expr

/-- The column that a text names, unchecked. -/
def col (path : String) : Expr := column (.ofText path)

/-- The part of a text from a position on, of at most some length. -/
def substring (e : Expr) (start : Int64) (length : Option Int64) : Expr :=
  function .substring
    ([e, constant (.ofInt start)] ++ (length.map fun n => constant (.ofInt n)).toList)

end Expr

namespace Filter

/-- A comparison with a constant; equality with NULL asks for NULL. -/
def comparing (e : Expr) (op : Comparison) (value : Constant) : Filter :=
  if value.isNull && (op == .eq || op == .ne) then compareNull e (op == .ne)
  else compare e op value false

/-- Membership in a list; a NULL in the list asks for NULL. -/
def among (e : Expr) (values : List Constant) : Filter :=
  let members := oneOf e (values.filter (!·.isNull))
  if values.any (·.isNull) then members.disjoin (compareNull e false) else members

end Filter

/-- A query under construction. -/
structure Draft where
  query : Select
  groupByInferred : Bool

namespace Draft

/-- A query on a table, with nothing else said yet. -/
def start (table : String) : Except Fault Draft :=
  if isAllBlank table then .error (.invalid .emptyTableName)
  else .ok ⟨⟨table, none, .empty, none, [], none, none, 0, false⟩, false⟩

/-- Gives the table a short name. -/
def withAlias (d : Draft) (name : String) : Except Fault Draft :=
  if isAllBlank name then .error (.invalid (.emptyTableAlias d.query.table))
  else .ok { d with query := { d.query with tableAlias := some name } }

/-- Adds a result column. -/
def withNamed (d : Draft) (n : NamedExpr) : Except Fault Draft := do
  let columns ← d.query.columns.push n
  return { d with query := { d.query with columns } }

/-- Adds a column under its own name. -/
def withColumn (d : Draft) (e : Expr) : Except Fault Draft := do d.withNamed (← NamedExpr.ofExpr e)

/-- Adds an expression under an alias. -/
def withColumnAs (d : Draft) (e : Expr) (label : String) : Except Fault Draft := do
  d.withNamed (← NamedExpr.named e label)

/-- Adds a condition on the rows; all conditions must hold. -/
def withFilter (d : Draft) (f : Filter) : Draft :=
  let filter := match d.query.filter with
    | some present => present.conjoin f
    | none => f
  { d with query := { d.query with filter := some filter } }

/-- Adds a grouping, unless it is there already. -/
def withGroupBy (d : Draft) (e : Expr) : Draft :=
  if d.query.groupBy.any (·.equals e) then d
  else { d with query := { d.query with groupBy := d.query.groupBy ++ [e] } }

/-- Adds a condition on the groups; all conditions must hold. -/
def withHaving (d : Draft) (f : Filter) : Draft :=
  let having := match d.query.having with
    | some present => present.conjoin f
    | none => f
  { d with query := { d.query with having := some having } }

/-- Sets the ordering. -/
def withOrder (d : Draft) (order : Order) : Draft :=
  { d with query := { d.query with order := some order } }

/-- Adds a term to the ordering. -/
def withOrderBy (d : Draft) (e : Expr) (direction : Direction) : Draft :=
  d.withOrder (d.query.order.getD [] ++ [⟨e, direction, none⟩])

/-- Caps the number of rows; zero is no cap. -/
def withMaxRows (d : Draft) (count : Int64) : Except Fault Draft :=
  if count < 0 then .error (.invalid (.negativeRowLimit count d.query.table))
  else .ok { d with query := { d.query with maxRows := count.toInt.toNat } }

/-- Drops repeated rows. -/
def withDistinct (d : Draft) : Draft := { d with query := { d.query with distinct := true } }

/-- The result columns to group by: those that read columns and do not aggregate. One that does
both is refused. -/
def groupable : List NamedExpr → Except Fault (List Expr)
  | [] => .ok []
  | n :: rest =>
    match n.expr.aggregation with
    | .mixed => .error (.mixedAggregation n.label)
    | .columns => do return n.expr :: (← groupable rest)
    | .aggregate | .constant => groupable rest

/-- Groups by the result columns that do not aggregate. It can be done once, and there must be a
result column. -/
def inferGroupBy (d : Draft) : Except Fault Draft := do
  if d.groupByInferred then .error (.groupByInitialized d.query.table)
  else if d.query.columns.isEmpty then .error (.groupByEmptyProjection d.query.table)
  else
    let groups ← groupable d.query.columns.items
    return { groups.foldl withGroupBy d with groupByInferred := true }

end Draft

end SqlScribe

import SqlScribe.Query.Select
import SqlScribe.Statement

/-!
# Expressions and orderings in SQL

Constants inside an expression are always literals.
-/

namespace SqlScribe

open SqlScribe.Text

mutual

/-- The expression in SQL. -/
def Expr.render (d : Dialect) : Expr → Except Fault String
  | .constant c => d.literal c.value c.type
  | .column path => d.column path
  | .function f args => do
    f.checkArguments args.length
    d.call f (← Expr.renderList d args)
  | .aggregate f (some e) => do d.aggregate f (some (← e.render d))
  | .aggregate f none =>
    if f = .count then d.aggregate f none else .error (.invalid (.noAggregateArgument f))

def Expr.renderList (d : Dialect) : List Expr → Except Fault (List String)
  | [] => .ok []
  | e :: rest => do
    let text ← e.render d
    return text :: (← Expr.renderList d rest)

end

/-- The expression in SQL, where a plain column counts as the default of a type when it is NULL. -/
def Expr.renderOrDefault (d : Dialect) (type : ColumnType) (e : Expr) : Except Fault String :=
  match e.asColumn? with
  | none => e.render d
  | some path => do
    let text ← d.column path
    if type = .unknown then .error (.invalid (.unknownSubstituteType path.fullName))
    else return d.coalesce text (← d.defaultLiteral type)

namespace OrderTerm

/-- The term in SQL. -/
def render (d : Dialect) (t : OrderTerm) : Except Fault String := do
  let text ← t.expr.render d
  let text ← match t.substitute with
    | some e => do pure (d.coalesce text (← e.render d))
    | none => pure text
  return text ++ " " ++ t.direction.sql

end OrderTerm

/-- The ordering in SQL. -/
def Order.render (d : Dialect) (order : Order) : Except Fault String := do
  return join ", " (← order.mapM (·.render d))

/-- A result column in SQL, with its alias if it needs one. -/
def NamedExpr.render (d : Dialect) (n : NamedExpr) : Except Fault String := do
  let text ← n.expr.render d
  if n.needsAlias then return text ++ " AS " ++ (← d.identifier n.label) else return text

end SqlScribe

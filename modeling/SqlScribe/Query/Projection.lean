import SqlScribe.Query.Expr

/-!
# Projections

The columns a query returns: expressions under aliases that differ pairwise, the case of letters
disregarded.
-/

namespace SqlScribe

open SqlScribe.Text

/-- An expression and the name of its result column. -/
structure NamedExpr where
  expr : Expr
  label : String

namespace NamedExpr

/-- An expression under an alias that is not blank. -/
def named (expr : Expr) (label : String) : Except Fault NamedExpr :=
  if isAllBlank label then .error (.invalid (.emptyAlias expr.display)) else .ok ⟨expr, label⟩

/-- A column under its own name; any other expression needs an alias. -/
def ofExpr (expr : Expr) : Except Fault NamedExpr :=
  match expr.asColumn? with
  | some path => .ok ⟨expr, path.name⟩
  | none => .error (.invalid (.missingAlias expr.display))

/-- The result column does not get its name by itself. -/
def needsAlias (n : NamedExpr) : Bool :=
  match n.expr.asColumn? with
  | some path => path.isQualified || path.fullName != n.label
  | none => true

end NamedExpr

/-- The result columns of a query, in order. -/
structure Projection where
  items : List NamedExpr

namespace Projection

def empty : Projection := ⟨[]⟩

def isEmpty (p : Projection) : Bool := p.items.isEmpty

/-- The result column of an alias. -/
def find? (p : Projection) (label : String) : Option NamedExpr :=
  p.items.find? fun n => sameName n.label label

/-- The projection with one more result column, whose alias must be new. -/
def push (p : Projection) (n : NamedExpr) : Except Fault Projection :=
  match p.find? n.label with
  | some _ => .error (.aliasCollision n.label)
  | none => .ok ⟨p.items ++ [n]⟩

/-- The projection with further result columns. -/
def pushAll (p : Projection) : List NamedExpr → Except Fault Projection
  | [] => .ok p
  | n :: rest => do (← p.push n).pushAll rest

/-- Some result column aggregates. -/
def aggregates (p : Projection) : Bool := p.items.any (·.expr.containsAggregate)

end Projection

end SqlScribe

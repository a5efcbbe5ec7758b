import SqlScribe.Statement.Expr
import SqlScribe.Text.Numeral

/-!
# Filters and queries in SQL

A comparison asks for NULL where the constant is NULL, `<>` also accepts NULL, a list is split so
that no part is longer than the dialect allows, and an empty list or junction becomes a constant.
-/

namespace SqlScribe

open SqlScribe.Text Emit

/-- Cuts a list into groups of a size; only the last may be shorter. A size of zero cuts nothing. -/
def inGroups {α : Type} (size : Nat) (xs : List α) : List (List α) :=
  if _h : xs.length ≤ size ∨ size = 0 then if xs.isEmpty then [] else [xs]
  else xs.take size :: inGroups size (xs.drop size)
termination_by xs.length
decreasing_by simp only [List.length_drop]; omega

namespace Constant

/-- Writes a constant as a value. -/
def emit (d : Dialect) (c : Constant) : Emit Unit := Emit.value d c.value c.type

end Constant

/-- Puts parentheses around a condition if the dialect wants them. -/
def Emit.enclosed (d : Dialect) (body : Emit Unit) : Emit Unit :=
  if d.features.parenthesizeFilters then do
    text "("
    body
    text ")"
  else body

namespace Filter

/-- A comparison with a constant. -/
def emitCompare (d : Dialect) (e : Expr) (op : Comparison) (c : Constant) (nullAsDefault : Bool) :
    Emit Unit := do
  if c.isNull then
    let lhs ← attempt (e.render d)
    match op with
    | .eq => do
      text lhs
      text " IS NULL"
    | .ne => do
      text lhs
      text " IS NOT NULL"
    | _ => text (d.truth false)
  else
    let lhs ← attempt (if nullAsDefault then e.renderOrDefault d c.type else e.render d)
    if op = .ne ∧ !nullAsDefault then
      text "("
      text lhs
      text " <> "
      c.emit d
      text " OR "
      text lhs
      text " IS NULL"
      text ")"
    else
      text lhs
      text (" " ++ op.sql ++ " ")
      c.emit d

/-- One group of a list. -/
def emitGroup (d : Dialect) (lhs : String) (group : List Constant) : Emit Unit := do
  text lhs
  text " IN "
  text "("
  separated ", " (group.map (·.emit d))
  text ")"

/-- Membership in a list: one term for each group, and one for NULL. -/
def emitOneOf (d : Dialect) (e : Expr) (values : List Constant) : Emit Unit := do
  if values.isEmpty then text (d.truth false)
  else
    let lhs ← attempt (e.render d)
    let groups := inGroups d.features.maxInList (values.filter (!·.isNull))
    let nulls := if values.any (·.isNull) then [do text lhs; text " IS NULL"] else []
    let terms := groups.map (emitGroup d lhs) ++ nulls
    if 1 < terms.length then text "("
    separated " OR " terms
    if 1 < terms.length then text ")"

/-- A comparison with a pattern. -/
def emitLike (d : Dialect) (e : Expr) (pattern : String) : Emit Unit := do
  text (← attempt (e.render d))
  text " LIKE "
  value d (.string pattern) .string
  text d.likeEscapeClause

/-- Membership in an interval with both its ends. -/
def emitBetween (d : Dialect) (e : Expr) (low high : Constant) : Emit Unit := do
  if low.isNull || high.isNull then attempt (.error (.invalid .nullBound))
  else
    let lhs ← attempt (e.render d)
    if d.features.between then
      text lhs
      text " BETWEEN "
      low.emit d
      text " AND "
      high.emit d
    else
      text "("
      text lhs
      text " >= "
      low.emit d
      text " AND "
      text lhs
      text " <= "
      high.emit d
      text ")"

/-- What an `IN` over a subquery asks for: the dialect knows it, and the subquery has one column. -/
def checkSubquery (d : Dialect) (q : Select) : Except Fault Unit :=
  if !d.features.inSubquery then d.lacks .inSubquery
  else if q.columns.items.length ≠ 1 then
    .error (.invalid (.subqueryWidth q.table q.columns.items.length))
  else .ok ()

end Filter

namespace QueryOf

variable {Condition : Type}

/-- What stands between `SELECT` and the first condition. -/
def emitHead (d : Dialect) (q : QueryOf Condition) : Emit Unit := do
  text "SELECT "
  if q.distinct then text "DISTINCT "
  if 0 < q.maxRows ∧ d.rowLimit = .top then text ("TOP " ++ numeral q.maxRows ++ " ")
  if q.columns.isEmpty then text "*"
  else text (join ", " (← attempt (q.columns.items.mapM (·.render d))))
  text " FROM "
  text (← attempt (d.tableName q.table))
  match q.tableAlias with
  | none => pure ()
  | some name =>
    if !d.features.tableAlias then attempt (d.lacks .tableAlias)
    else
      text " AS "
      text (← attempt (d.identifier name))

/-- The groups. -/
def emitGroups (d : Dialect) (q : QueryOf Condition) : Emit Unit := do
  if q.groupBy.isEmpty then pure ()
  else
    let groups ← attempt (q.groupBy.mapM (·.render d))
    text " GROUP BY "
    text (join ", " groups)

/-- The ordering, and the cap where it stands at the end. A cap that is left to the reader of the
result would be lost in a subquery and is refused there. -/
def emitTail (d : Dialect) (nested : Bool) (q : QueryOf Condition) : Emit Unit := do
  match q.order with
  | none | some [] => pure ()
  | some order =>
    text " ORDER BY "
    text (← attempt (Order.render d order))
  if 0 < q.maxRows then
    match d.rowLimit with
    | .top => pure ()
    | .limit => text (" LIMIT " ++ numeral q.maxRows)
    | .driver => if nested then attempt (d.lacks .subqueryRowLimit) else cap q.maxRows

end QueryOf

mutual

/-- Writes a filter. -/
def Filter.emit (d : Dialect) : Filter → Emit Unit
  | .and [] => text (d.truth true)
  | .and [f] => f.emit d
  | .and (f :: rest) => do
    text "("
    f.emit d
    Filter.emitRest d " AND " rest
    text ")"
  | .or [] => text (d.truth false)
  | .or [f] => f.emit d
  | .or (f :: rest) => do
    text "("
    f.emit d
    Filter.emitRest d " OR " rest
    text ")"
  | .not f => do
    text "NOT "
    text "("
    f.emit d
    text ")"
  | .compare e op c nullAsDefault => enclosed d (Filter.emitCompare d e op c nullAsDefault)
  | .compareNull e negated => enclosed d do
    text (← attempt (e.render d))
    text (if negated then " IS NOT NULL" else " IS NULL")
  | .oneOf e values => enclosed d (Filter.emitOneOf d e values)
  | .startsWith e start => enclosed d (Filter.emitLike d e (d.escapeLike start ++ "%"))
  | .contains e needle => enclosed d (Filter.emitLike d e ("%" ++ d.escapeLike needle ++ "%"))
  | .inSubquery e q => enclosed d do
    attempt (Filter.checkSubquery d q)
    text (← attempt (e.render d))
    text " IN ("
    Filter.emitQuery d true q
    text ")"
  | .between e low high => enclosed d (Filter.emitBetween d e low high)
  | .constant b => enclosed d (text (d.truth b))

/-- Writes the further parts of a junction. -/
def Filter.emitRest (d : Dialect) (sep : String) : List Filter → Emit Unit
  | [] => pure ()
  | f :: rest => do
    text sep
    f.emit d
    Filter.emitRest d sep rest

/-- Writes a condition after its keyword, if there is one. -/
def Filter.emitCondition (d : Dialect) (keyword : String) : Option Filter → Emit Unit
  | none => pure ()
  | some f => do
    text keyword
    f.emit d

/-- Writes a query, on its own or nested in a filter. -/
def Filter.emitQuery (d : Dialect) (nested : Bool) : QueryOf Filter → Emit Unit
  | ⟨table, tableAlias, columns, filter, groupBy, having, order, maxRows, distinct⟩ => do
    let shape : QueryOf Unit :=
      ⟨table, tableAlias, columns, none, groupBy, none, order, maxRows, distinct⟩
    shape.emitHead d
    Filter.emitCondition d " WHERE " filter
    shape.emitGroups d
    Filter.emitCondition d " HAVING " having
    shape.emitTail d nested

end

namespace Filter

/-- The filter as a statement of its own, without a keyword. -/
def compile (d : Dialect) (mode : ParamMode) (f : Filter) : Except Fault Statement :=
  Emit.compile d mode (f.emit d)

end Filter

namespace QueryOf

/-- Writes a whole query. -/
def emit (d : Dialect) (q : Select) : Emit Unit :=
  if d.selects then Filter.emitQuery d false q else attempt (d.lacks .selectStatements)

/-- The query as a statement. -/
def compile (d : Dialect) (mode : ParamMode) (q : Select) : Except Fault Statement :=
  Emit.compile d mode (q.emit d)

end QueryOf

end SqlScribe

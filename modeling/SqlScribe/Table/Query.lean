import SqlScribe.Table.Condition

/-!
# Queries over a table

The rows that satisfy the condition are sorted, projected, freed of repetitions and cut off at the
cap, in this order.
-/

namespace SqlScribe

open SqlScribe.Text

/-- What a row is sorted by. -/
abbrev SortKey := List Value

/-- The order of two rows under the directions of an ordering; values without an order count as
equal. -/
def SortKey.compare : List Direction → SortKey → SortKey → Ordering
  | direction :: directions, v :: vs, w :: ws =>
    let order := (v.compare? w).getD .eq
    let order := if direction = .desc then order.swap else order
    order.then (SortKey.compare directions vs ws)
  | _, _, _ => .eq

/-- Puts an element behind those at the end of a sorted list that it is not less than. The list is
held back to front. -/
def insertBack {α : Type} (compare : α → α → Ordering) (x : α) : List α → List α
  | [] => [x]
  | y :: rest => if compare x y == .lt then y :: insertBack compare x rest else x :: y :: rest

/-- Sorts a list; elements that are equal keep their order. -/
def stableSort {α : Type} (compare : α → α → Ordering) (xs : List α) : List α :=
  (xs.foldl (fun sorted x => insertBack compare x sorted) []).reverse

namespace Row

/-- Two rows hold the same values. -/
def equals : Row → Row → Bool
  | [], [] => true
  | v :: vs, w :: ws => v.equals w && equals vs ws
  | _, _ => false

/-- The first occurrence of every row. -/
def distinct (rows : List Row) : List Row :=
  rows.foldl (fun seen row => if seen.any (equals · row) then seen else seen ++ [row]) []

end Row

namespace Table

/-- What a row is sorted by; a substitute takes the place of NULL. -/
def sortKey (t : Table) (row : Row) (order : Order) : Except Fault SortKey :=
  order.mapM fun term => do
    let v ← t.eval row term.expr
    match term.substitute with
    | some e => if v.isNull then t.eval row e else return v
    | none => return v

/-- The rows that satisfy the condition of a query, each with what it is sorted by. -/
def matching (t : Table) (q : Select) : List Row → Except Fault (List (SortKey × Row))
  | [] => .ok []
  | row :: rest => do
    let verdict ← match q.filter with
      | some f => t.test row f
      | none => pure (some true)
    if verdict == some true then
      let key ← t.sortKey row (q.ordering?.getD [])
      return (key, row) :: (← t.matching q rest)
    else t.matching q rest

/-- A row with the result columns of a query; without any, the row itself. -/
def project (t : Table) (q : Select) (row : Row) : Except Fault Row :=
  if q.columns.isEmpty then .ok row else q.columns.items.mapM fun n => t.eval row n.expr

/-- The query reads this table, and it does not aggregate. -/
def checkQuery (t : Table) (q : Select) : Except Fault Unit :=
  if !sameName q.table t.name then .error (.invalid (.wrongTable q.table t.name))
  else if q.columns.aggregates || !q.groupBy.isEmpty || q.having.isSome then
    .error (.unsupported engineName .aggregates)
  else .ok ()

/-- The result of a query. -/
def select (t : Table) (q : Select) : Except Fault ResultSet := do
  t.checkQuery q
  let found ← t.matching q t.rows
  let directions := (q.ordering?.getD []).map (·.direction)
  let sorted := stableSort (fun a b => SortKey.compare directions a.1 b.1) found
  let projected ← sorted.mapM fun (_, row) => t.project q row
  let rows := if q.distinct then Row.distinct projected else projected
  let columns :=
    if q.columns.isEmpty then t.columns.map (·.name) else q.columns.items.map (·.label)
  return ⟨columns, if 0 < q.maxRows then rows.take q.maxRows else rows⟩

end Table

end SqlScribe

import SqlScribe.Query.Select

/-!
# Caps of queries

A query has a cap of rows, and the queries in its conditions have caps of their own.
-/

namespace SqlScribe

/-- The cap of a query, with those of the queries in it in the order in which they stand. -/
inductive Caps
  | node (rows : Nat) (inner : List Caps)

mutual

/-- The caps of the queries in a filter. -/
def Filter.caps : Filter → List Caps
  | .inSubquery _ q => [Filter.capsOfQuery q]
  | .and parts | .or parts => Filter.capsOfAll parts
  | .not part => part.caps
  | .compare _ _ _ _ | .compareNull _ _ | .oneOf _ _ | .startsWith _ _ | .contains _ _
  | .between _ _ _ | .constant _ => []

def Filter.capsOfAll : List Filter → List Caps
  | [] => []
  | f :: rest => f.caps ++ Filter.capsOfAll rest

def Filter.capsOfCondition : Option Filter → List Caps
  | none => []
  | some f => f.caps

/-- The cap of a query and of the queries in its conditions. -/
def Filter.capsOfQuery : QueryOf Filter → Caps
  | ⟨_, _, _, filter, _, having, _, maxRows, _⟩ =>
    .node maxRows (Filter.capsOfCondition filter ++ Filter.capsOfCondition having)

end

mutual

/-- The filter with other caps of the queries in it. -/
def Filter.recap (g : Nat → Nat) : Filter → Filter
  | .inSubquery e q => .inSubquery e (Filter.recapQuery g q)
  | .and parts => .and (Filter.recapAll g parts)
  | .or parts => .or (Filter.recapAll g parts)
  | .not part => .not (part.recap g)
  | .compare e op c nullAsDefault => .compare e op c nullAsDefault
  | .compareNull e negated => .compareNull e negated
  | .oneOf e values => .oneOf e values
  | .startsWith e start => .startsWith e start
  | .contains e needle => .contains e needle
  | .between e low high => .between e low high
  | .constant b => .constant b

def Filter.recapAll (g : Nat → Nat) : List Filter → List Filter
  | [] => []
  | f :: rest => f.recap g :: Filter.recapAll g rest

def Filter.recapCondition (g : Nat → Nat) : Option Filter → Option Filter
  | none => none
  | some f => some (f.recap g)

/-- The query with another cap, and with other caps of the queries in it. -/
def Filter.recapQuery (g : Nat → Nat) : QueryOf Filter → QueryOf Filter
  | ⟨table, tableAlias, columns, filter, groupBy, having, order, maxRows, distinct⟩ =>
    ⟨table, tableAlias, columns, Filter.recapCondition g filter, groupBy,
      Filter.recapCondition g having, order, g maxRows, distinct⟩

end

mutual

theorem Filter.recap_id : (f : Filter) → f.recap id = f
  | .inSubquery e q => by rw [Filter.recap, Filter.recapQuery_id q]
  | .and parts => by rw [Filter.recap, Filter.recapAll_id parts]
  | .or parts => by rw [Filter.recap, Filter.recapAll_id parts]
  | .not part => by rw [Filter.recap, part.recap_id]
  | .compare _ _ _ _ | .compareNull _ _ | .oneOf _ _ | .startsWith _ _ | .contains _ _
  | .between _ _ _ | .constant _ => rfl

theorem Filter.recapAll_id : (fs : List Filter) → Filter.recapAll id fs = fs
  | [] => rfl
  | f :: rest => by rw [Filter.recapAll, f.recap_id, Filter.recapAll_id rest]

theorem Filter.recapCondition_id : (f : Option Filter) → Filter.recapCondition id f = f
  | none => rfl
  | some f => by rw [Filter.recapCondition, f.recap_id]

theorem Filter.recapQuery_id : (q : QueryOf Filter) → Filter.recapQuery id q = q
  | ⟨_, _, _, filter, _, having, _, _, _⟩ => by
    rw [Filter.recapQuery, Filter.recapCondition_id filter, Filter.recapCondition_id having]
    rfl

end

namespace QueryOf

/-- The cap of a query and of the queries in it, at any depth. -/
def caps (q : Select) : Caps := Filter.capsOfQuery q

/-- The query with other caps. -/
def recap (g : Nat → Nat) (q : Select) : Select := Filter.recapQuery g q

theorem recap_id (q : Select) : q.recap id = q := Filter.recapQuery_id q

end QueryOf

end SqlScribe

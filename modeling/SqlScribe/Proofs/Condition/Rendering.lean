import SqlScribe.Proofs.Condition.Syntax
import SqlScribe.Statement.Filter

/-!
# The condition that a filter is written as

Every filter stands for one condition of SQL, and parentheses stand in it wherever it takes them to
be read as it is meant.
-/

namespace SqlScribe

namespace Sql

/-- Conditions joined to the right. -/
def chain (join : Condition → Condition → Condition) : Condition → List Condition → Condition
  | first, [] => first
  | first, next :: rest => join first (chain join next rest)

/-- Several conditions as one; none of them make a constant. -/
def junction (join : Condition → Condition → Condition) (empty : Bool) :
    List Condition → Condition
  | [] => .truth empty
  | [only] => only
  | first :: rest => .enclosed (chain join first rest)

/-- The parentheses that a dialect may want around a condition. -/
def enclosedFor (d : Dialect) (c : Condition) : Condition :=
  if d.features.parenthesizeFilters then .enclosed c else c

/-- The left side of a comparison that may read NULL as the default of a type. -/
def comparedSide (e : Expr) (nullAsDefault : Bool) (type : ColumnType) : Scalar :=
  match nullAsDefault, e.asColumn? with
  | true, some path => .coalesced path ⟨type.default, type⟩
  | _, _ => .expr e

/-- A comparison with a constant. -/
def compareCondition (e : Expr) (op : Comparison) (c : Constant) (nullAsDefault : Bool) :
    Condition :=
  if c.isNull then
    match op with
    | .eq => .isNull (.expr e) false
    | .ne => .isNull (.expr e) true
    | _ => .truth false
  else if op = .ne ∧ !nullAsDefault then
    .enclosed (.or (.compare (.expr e) .ne c) (.isNull (.expr e) false))
  else .compare (comparedSide e nullAsDefault c.type) op c

/-- Membership in one group of a list. -/
def groupCondition (e : Expr) : List Constant → Condition
  | [] => .truth false
  | c :: rest => .oneOf (.expr e) c rest

/-- The terms of a list: one for each group, and one for NULL. -/
def oneOfTerms (d : Dialect) (e : Expr) (values : List Constant) : List Condition :=
  (inGroups d.features.maxInList (values.filter (!·.isNull))).map (groupCondition e) ++
    if values.any (·.isNull) then [.isNull (.expr e) false] else []

/-- Membership in a list. -/
def oneOfCondition (d : Dialect) (e : Expr) (values : List Constant) : Condition :=
  junction .or false (oneOfTerms d e values)

/-- Membership in an interval. -/
def betweenCondition (d : Dialect) (e : Expr) (low high : Constant) : Condition :=
  if d.features.between then .between (.expr e) low high
  else .enclosed (.and (.compare (.expr e) .ge low) (.compare (.expr e) .le high))

end Sql

open Sql

mutual

/-- The parts of a filter that are neither junctions nor negations. -/
def Filter.leaves : Filter → List Filter
  | .and parts | .or parts => Filter.leavesOf parts
  | .not part => part.leaves
  | leaf => [leaf]

def Filter.leavesOf : List Filter → List Filter
  | [] => []
  | f :: rest => f.leaves ++ Filter.leavesOf rest

end

/-- No subquery stands anywhere in the filter. -/
def Filter.Plain (f : Filter) : Prop := ∀ e q, .inSubquery e q ∉ f.leaves

mutual

/-- The condition that a filter without subqueries is written as. -/
def Filter.condition (d : Dialect) : Filter → Condition
  | .and parts => junction .and true (Filter.conditions d parts)
  | .or parts => junction .or false (Filter.conditions d parts)
  | .not part => .not (.enclosed (part.condition d))
  | .compare e op c nullAsDefault => enclosedFor d (compareCondition e op c nullAsDefault)
  | .compareNull e negated => enclosedFor d (.isNull (.expr e) negated)
  | .oneOf e values => enclosedFor d (oneOfCondition d e values)
  | .startsWith e start => enclosedFor d (.like (.expr e) (.startsWith start))
  | .contains e needle => enclosedFor d (.like (.expr e) (.contains needle))
  | .between e low high => enclosedFor d (betweenCondition d e low high)
  | .constant b => enclosedFor d (.truth b)
  | .inSubquery _ _ => .truth false

def Filter.conditions (d : Dialect) : List Filter → List Condition
  | [] => []
  | f :: rest => f.condition d :: Filter.conditions d rest

end

namespace Sql

/-! ## Parentheses and precedence -/

namespace Condition

theorem chain_or_fits {first : Condition} {rest : List Condition} (h : first.Fits .operand)
    (others : ∀ c ∈ rest, c.Fits .operand) : (chain .or first rest).Fits .disjunction := by
  induction rest generalizing first with
  | nil => exact h.loosen _
  | cons next rest ih =>
    refine ⟨rfl, h.loosen _, ih (others next List.mem_cons_self) ?_⟩
    exact fun c member => others c (List.mem_cons_of_mem _ member)

theorem chain_and_fits {first : Condition} {rest : List Condition} (h : first.Fits .operand)
    (others : ∀ c ∈ rest, c.Fits .operand) {level : Level} (loose : level ≠ .operand) :
    (chain .and first rest).Fits level := by
  induction rest generalizing first level with
  | nil => exact h.loosen _
  | cons next rest ih =>
    refine ⟨loose, h, ih (others next List.mem_cons_self) ?_ (by decide)⟩
    exact fun c member => others c (List.mem_cons_of_mem _ member)

theorem junction_fits {join : Condition → Condition → Condition} {empty : Bool}
    {parts : List Condition} (all : ∀ c ∈ parts, c.Fits .operand)
    (chained : ∀ first rest, parts = first :: rest → (chain join first rest).Fits .disjunction) :
    (junction join empty parts).Fits .operand := by
  cases parts with
  | nil => trivial
  | cons first rest =>
    cases rest with
    | nil => exact all first List.mem_cons_self
    | cons next rest => exact chained first (next :: rest) rfl

theorem junction_or_fits {empty : Bool} {parts : List Condition}
    (all : ∀ c ∈ parts, c.Fits .operand) : (junction .or empty parts).Fits .operand := by
  apply junction_fits all
  rintro first rest rfl
  exact chain_or_fits (all first List.mem_cons_self) fun c member =>
    all c (List.mem_cons_of_mem _ member)

theorem junction_and_fits {empty : Bool} {parts : List Condition}
    (all : ∀ c ∈ parts, c.Fits .operand) : (junction .and empty parts).Fits .operand := by
  apply junction_fits all
  rintro first rest rfl
  exact chain_and_fits (all first List.mem_cons_self)
    (fun c member => all c (List.mem_cons_of_mem _ member)) (by decide)

theorem enclosedFor_fits (d : Dialect) {c : Condition} (h : c.Fits .operand) :
    (enclosedFor d c).Fits .operand := by
  unfold enclosedFor
  split
  · exact h.loosen .disjunction
  · exact h

theorem compareCondition_fits (e : Expr) (op : Comparison) (c : Constant) (nullAsDefault : Bool) :
    (compareCondition e op c nullAsDefault).Fits .operand := by
  unfold compareCondition
  split
  · cases op <;> trivial
  · split
    · exact ⟨rfl, trivial, trivial⟩
    · trivial

theorem groupCondition_fits (e : Expr) (group : List Constant) :
    (groupCondition e group).Fits .operand := by
  cases group <;> trivial

theorem oneOfCondition_fits (d : Dialect) (e : Expr) (values : List Constant) :
    (oneOfCondition d e values).Fits .operand := by
  apply junction_or_fits
  intro c member
  obtain grouped | null := List.mem_append.mp member
  · obtain ⟨group, -, rfl⟩ := List.mem_map.mp grouped
    exact groupCondition_fits e group
  · split at null
    · rw [List.mem_singleton.mp null]
      trivial
    · cases null

theorem betweenCondition_fits (d : Dialect) (e : Expr) (low high : Constant) :
    (betweenCondition d e low high).Fits .operand := by
  unfold betweenCondition
  split
  · trivial
  · exact ⟨by decide, trivial, trivial⟩

end Condition

end Sql

mutual

/-- A filter's condition needs no parentheses anywhere. -/
theorem Filter.condition_fits (d : Dialect) : (f : Filter) → (f.condition d).Fits .operand
  | .and parts => Condition.junction_and_fits (Filter.conditions_fit d parts)
  | .or parts => Condition.junction_or_fits (Filter.conditions_fit d parts)
  | .not part => (part.condition_fits d).loosen .disjunction
  | .compare e op c nullAsDefault =>
    Condition.enclosedFor_fits d (Condition.compareCondition_fits e op c nullAsDefault)
  | .compareNull _ _ => Condition.enclosedFor_fits d trivial
  | .oneOf e values => Condition.enclosedFor_fits d (Condition.oneOfCondition_fits d e values)
  | .startsWith _ _ => Condition.enclosedFor_fits d trivial
  | .contains _ _ => Condition.enclosedFor_fits d trivial
  | .between e low high =>
    Condition.enclosedFor_fits d (Condition.betweenCondition_fits d e low high)
  | .constant _ => Condition.enclosedFor_fits d trivial
  | .inSubquery _ _ => trivial

theorem Filter.conditions_fit (d : Dialect) :
    (parts : List Filter) → ∀ c ∈ Filter.conditions d parts, c.Fits .operand
  | [], _, member => by cases member
  | f :: rest, c, member => by
    cases member with
    | head => exact f.condition_fits d
    | tail _ later => exact Filter.conditions_fit d rest c later

end

end SqlScribe

import SqlScribe.Proofs.Value.Sameness
import SqlScribe.Query.Expr

/-!
# What expressions are made of

Functions put constants, columns and aggregate calls together to an expression; what stands inside
an aggregate call is not looked at. The class of an expression says whether a column and whether an
aggregate is among these, and expressions that count as one are made of the same columns.
-/

namespace SqlScribe

/-- The class of what has columns or not, and aggregates or not. -/
def Aggregation.of : Bool → Bool → Aggregation
  | true, true => mixed
  | true, false => columns
  | false, true => aggregate
  | false, false => constant

theorem Aggregation.merge_of (a b c d : Bool) :
    (of a b).merge (of c d) = of (a || c) (b || d) := by
  cases a <;> cases b <;> cases c <;> cases d <;> rfl

theorem Constant.equals_trans {a b c : Constant} (first : a.equals b = true)
    (second : b.equals c = true) : a.equals c = true := by
  simp only [equals, Bool.and_eq_true, beq_iff_eq] at *
  exact ⟨Value.equals_trans first.1 second.1, first.2.trans second.2⟩

namespace Expr

mutual

/-- The constants, columns and aggregate calls of which functions make the expression, from left to
right. -/
def leaves : Expr → List Expr
  | constant c => [constant c]
  | column path => [column path]
  | function _ args => leavesOf args
  | aggregate f arg => [aggregate f arg]

def leavesOf : List Expr → List Expr
  | [] => []
  | e :: rest => e.leaves ++ leavesOf rest

end

def isAggregate : Expr → Bool
  | aggregate _ _ => true
  | _ => false

/-- A column stands in the expression outside of every aggregate call. -/
def hasColumn (e : Expr) : Bool := e.leaves.any (·.asColumn?.isSome)

/-- An aggregate is called in the expression. -/
def hasAggregate (e : Expr) : Bool := e.leaves.any isAggregate

mutual

theorem aggregation_eq : (e : Expr) → e.aggregation = .of e.hasColumn e.hasAggregate
  | constant _ => rfl
  | column _ => rfl
  | function _ args => by
    rw [aggregation, hasColumn, hasAggregate, leaves]
    exact aggregationOf_eq args false false
  | aggregate _ _ => rfl

/-- Merging class after class is joining what has been seen with what comes. -/
theorem aggregationOf_eq : (es : List Expr) → (columns aggregates : Bool) →
    aggregationOf (.of columns aggregates) es =
      .of (columns || (leavesOf es).any (·.asColumn?.isSome))
        (aggregates || (leavesOf es).any isAggregate)
  | [], columns, aggregates => by
    rw [aggregationOf, leavesOf, List.any_nil, List.any_nil, Bool.or_false, Bool.or_false]
  | e :: rest, columns, aggregates => by
    rw [aggregationOf, aggregation_eq e, Aggregation.merge_of, aggregationOf_eq rest, leavesOf,
      List.any_append, List.any_append, Bool.or_assoc, Bool.or_assoc]
    rfl

end

mutual

theorem equals_trans : (a b c : Expr) → a.equals b = true → b.equals c = true → a.equals c = true
  | constant a, b, c, first, second => by
    cases b <;> simp only [equals, Bool.false_eq_true] at first
    cases c <;> simp only [equals, Bool.false_eq_true] at second ⊢
    exact Constant.equals_trans first second
  | column a, b, c, first, second => by
    cases b <;> simp only [equals, Bool.false_eq_true, beq_iff_eq] at first
    rwa [first]
  | function f args, b, c, first, second => by
    cases b <;> simp only [equals, Bool.false_eq_true, Bool.and_eq_true, beq_iff_eq] at first
    cases c <;> simp only [equals, Bool.false_eq_true, Bool.and_eq_true, beq_iff_eq] at second ⊢
    exact ⟨first.1.trans second.1, equalLists_trans args _ _ first.2 second.2⟩
  | aggregate f none, b, c, first, second => by
    rcases b with _ | _ | _ | ⟨g, _ | b⟩ <;>
      simp only [equals, Bool.false_eq_true, beq_iff_eq] at first
    rwa [first]
  | aggregate f (some a), b, c, first, second => by
    rcases b with _ | _ | _ | ⟨g, _ | b⟩ <;>
      simp only [equals, Bool.false_eq_true, Bool.and_eq_true, beq_iff_eq] at first
    rcases c with _ | _ | _ | ⟨h, _ | c⟩ <;>
      simp only [equals, Bool.false_eq_true, Bool.and_eq_true, beq_iff_eq] at second ⊢
    exact ⟨first.1.trans second.1, equals_trans a b c first.2 second.2⟩

theorem equalLists_trans : (as bs cs : List Expr) → equalLists as bs = true →
    equalLists bs cs = true → equalLists as cs = true
  | [], bs, cs, first, second => by
    cases bs with
    | nil => exact second
    | cons b bs => simp only [equalLists, Bool.false_eq_true] at first
  | a :: as, bs, cs, first, second => by
    cases bs <;> simp only [equalLists, Bool.false_eq_true, Bool.and_eq_true] at first
    cases cs <;> simp only [equalLists, Bool.false_eq_true, Bool.and_eq_true] at second ⊢
    exact ⟨equals_trans a _ _ first.1 second.1, equalLists_trans as _ _ first.2 second.2⟩

end

mutual

/-- Expressions that count as one are made of the same columns; their constants may differ. -/
theorem columns_of_equals : (a b : Expr) → a.equals b = true →
    a.leaves.filterMap asColumn? = b.leaves.filterMap asColumn?
  | constant a, b, same => by
    cases b <;> simp only [equals, Bool.false_eq_true] at same
    rfl
  | column a, b, same => by
    cases b <;> simp only [equals, Bool.false_eq_true, beq_iff_eq] at same
    rw [same]
  | function f args, b, same => by
    cases b <;> simp only [equals, Bool.false_eq_true, Bool.and_eq_true] at same
    exact columns_of_equalLists args _ same.2
  | aggregate f arg, b, same => by
    cases b with
    | aggregate g other => rfl
    | _ => cases arg <;> simp only [equals, Bool.false_eq_true] at same

theorem columns_of_equalLists : (as bs : List Expr) → equalLists as bs = true →
    (leavesOf as).filterMap asColumn? = (leavesOf bs).filterMap asColumn?
  | [], bs, same => by
    cases bs <;> simp only [equalLists, Bool.false_eq_true] at same
    rfl
  | a :: as, bs, same => by
    cases bs <;> simp only [equalLists, Bool.false_eq_true, Bool.and_eq_true] at same
    rw [leavesOf, leavesOf, List.filterMap_append, List.filterMap_append,
      columns_of_equals a _ same.1, columns_of_equalLists as _ same.2]

end

theorem column_mem_leaves {e : Expr} {path : ColumnPath} :
    column path ∈ e.leaves ↔ path ∈ e.leaves.filterMap asColumn? := by
  rw [List.mem_filterMap]
  constructor
  · intro member
    exact ⟨column path, member, rfl⟩
  · rintro ⟨leaf, member, isColumn⟩
    cases leaf <;> cases isColumn
    exact member

end Expr

end SqlScribe

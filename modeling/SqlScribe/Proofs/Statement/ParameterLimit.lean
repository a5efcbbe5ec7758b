import SqlScribe.Proofs.Condition.Lists
import SqlScribe.Proofs.Statement.BoundValues

/-!
# The limit on parameters

How many parameters a dialect takes in one statement bounds the rows of a batch. It has no part in
compilation: every statement comes out the same whatever the limit is, with one parameter for each
value that is bound. So a statement keeps to the limit exactly if it does not bind more values.
-/

namespace SqlScribe

open Emit

/-- The dialect with another limit on parameters. -/
def Dialect.withParameterLimit (d : Dialect) (limit : Nat) : Dialect :=
  { d with features := { d.features with maxParameters := limit } }

variable (d : Dialect) (limit : Nat)

mutual

theorem Expr.render_withParameterLimit :
    (e : Expr) → e.render (d.withParameterLimit limit) = e.render d
  | .constant _ => rfl
  | .column _ => rfl
  | .function f args => by
    simp only [Expr.render]
    rw [Expr.renderList_withParameterLimit args]
    rfl
  | .aggregate f (some e) => by
    simp only [Expr.render]
    rw [Expr.render_withParameterLimit e]
    rfl
  | .aggregate f none => rfl

theorem Expr.renderList_withParameterLimit :
    (es : List Expr) → Expr.renderList (d.withParameterLimit limit) es = Expr.renderList d es
  | [] => rfl
  | e :: rest => by
    simp only [Expr.renderList]
    rw [Expr.render_withParameterLimit e, Expr.renderList_withParameterLimit rest]

end

theorem Expr.renderOrDefault_withParameterLimit (type : ColumnType) (e : Expr) :
    e.renderOrDefault (d.withParameterLimit limit) type = e.renderOrDefault d type := by
  unfold Expr.renderOrDefault
  rw [Expr.render_withParameterLimit]
  rfl

theorem NamedExpr.render_withParameterLimit (n : NamedExpr) :
    n.render (d.withParameterLimit limit) = n.render d := by
  unfold NamedExpr.render
  rw [Expr.render_withParameterLimit]
  rfl

theorem OrderTerm.render_withParameterLimit (t : OrderTerm) :
    t.render (d.withParameterLimit limit) = t.render d := by
  unfold OrderTerm.render
  simp only [Expr.render_withParameterLimit]
  rfl

theorem Order.render_withParameterLimit (order : Order) :
    Order.render (d.withParameterLimit limit) order = Order.render d order := by
  simp only [Order.render, OrderTerm.render_withParameterLimit]

namespace Filter

theorem emitCompare_withParameterLimit (e : Expr) (op : Comparison) (c : Constant)
    (nullAsDefault : Bool) :
    emitCompare (d.withParameterLimit limit) e op c nullAsDefault =
      emitCompare d e op c nullAsDefault := by
  simp only [emitCompare, Expr.render_withParameterLimit, Expr.renderOrDefault_withParameterLimit]
  rfl

theorem emitBetween_withParameterLimit (e : Expr) (low high : Constant) :
    emitBetween (d.withParameterLimit limit) e low high = emitBetween d e low high := by
  simp only [emitBetween, Expr.render_withParameterLimit]
  rfl

theorem emitLike_withParameterLimit (e : Expr) (pattern : String) :
    emitLike (d.withParameterLimit limit) e pattern = emitLike d e pattern := by
  simp only [emitLike, Expr.render_withParameterLimit]
  rfl

theorem emitOneOf_withParameterLimit (e : Expr) (values : List Constant) :
    emitOneOf (d.withParameterLimit limit) e values = emitOneOf d e values := by
  simp only [emitOneOf, Expr.render_withParameterLimit]
  rfl

end Filter

namespace QueryOf

variable {Condition : Type} (q : QueryOf Condition)

theorem emitHead_withParameterLimit :
    q.emitHead (d.withParameterLimit limit) = q.emitHead d := by
  simp only [emitHead, NamedExpr.render_withParameterLimit]
  rfl

theorem emitGroups_withParameterLimit :
    q.emitGroups (d.withParameterLimit limit) = q.emitGroups d := by
  simp only [emitGroups, Expr.render_withParameterLimit]

theorem emitTail_withParameterLimit (nested : Bool) :
    q.emitTail (d.withParameterLimit limit) nested = q.emitTail d nested := by
  simp only [emitTail, Order.render_withParameterLimit]
  rfl

end QueryOf

mutual

theorem Filter.emit_withParameterLimit :
    (f : Filter) → f.emit (d.withParameterLimit limit) = f.emit d
  | .and parts => by
    rw [Filter.emit_and, Filter.emit_and, Filter.emitAll_withParameterLimit parts]
    rfl
  | .or parts => by
    rw [Filter.emit_or, Filter.emit_or, Filter.emitAll_withParameterLimit parts]
    rfl
  | .not part => by
    rw [Filter.emit, Filter.emit, Filter.emit_withParameterLimit part]
  | .compare e op c nullAsDefault => by
    rw [Filter.emit, Filter.emit, Filter.emitCompare_withParameterLimit]
    rfl
  | .compareNull e negated => by
    rw [Filter.emit, Filter.emit, Expr.render_withParameterLimit]
    rfl
  | .oneOf e values => by
    rw [Filter.emit, Filter.emit, Filter.emitOneOf_withParameterLimit]
    rfl
  | .startsWith e start => by
    rw [Filter.emit, Filter.emit, Filter.emitLike_withParameterLimit]
    rfl
  | .contains e needle => by
    rw [Filter.emit, Filter.emit, Filter.emitLike_withParameterLimit]
    rfl
  | .inSubquery e q => by
    rw [Filter.emit, Filter.emit, Filter.emitQuery_withParameterLimit true q]
    simp only [Expr.render_withParameterLimit]
    rfl
  | .between e low high => by
    rw [Filter.emit, Filter.emit, Filter.emitBetween_withParameterLimit]
    rfl
  | .constant b => by
    rw [Filter.emit, Filter.emit]
    rfl

theorem Filter.emitAll_withParameterLimit :
    (parts : List Filter) →
      parts.map (·.emit (d.withParameterLimit limit)) = parts.map (·.emit d)
  | [] => rfl
  | f :: rest => by
    rw [List.map_cons, List.map_cons, Filter.emit_withParameterLimit f,
      Filter.emitAll_withParameterLimit rest]

theorem Filter.emitCondition_withParameterLimit (keyword : String) :
    (f : Option Filter) →
      Filter.emitCondition (d.withParameterLimit limit) keyword f =
        Filter.emitCondition d keyword f
  | none => rfl
  | some f => by
    rw [Filter.emitCondition, Filter.emitCondition, Filter.emit_withParameterLimit f]

theorem Filter.emitQuery_withParameterLimit (nested : Bool) :
    (q : QueryOf Filter) →
      Filter.emitQuery (d.withParameterLimit limit) nested q = Filter.emitQuery d nested q
  | ⟨_, _, _, filter, _, having, _, _, _⟩ => by
    rw [Filter.emitQuery, Filter.emitQuery]
    simp only [Filter.emitCondition_withParameterLimit _ filter,
      Filter.emitCondition_withParameterLimit _ having, QueryOf.emitHead_withParameterLimit,
      QueryOf.emitGroups_withParameterLimit, QueryOf.emitTail_withParameterLimit]

end

theorem Insert.emitRows_withParameterLimit (columns : List Column) (index : Nat)
    (rows : List (List Value)) :
    emitRows (d.withParameterLimit limit) columns index rows = emitRows d columns index rows := by
  induction rows generalizing index with
  | nil => rfl
  | cons row rest ih =>
    rw [emitRows, emitRows, ih]
    rfl

theorem Descriptor.emit_withParameterLimit (x : Descriptor) :
    x.emit (d.withParameterLimit limit) = x.emit d := by
  cases x with
  | select q =>
    simp only [emit, QueryOf.emit, Filter.emitQuery_withParameterLimit]
    rfl
  | filter f => exact f.emit_withParameterLimit d limit
  | insert i =>
    simp only [emit, Insert.emit, Insert.emitRows_withParameterLimit]
    rfl
  | update u =>
    simp only [emit, Update.emit, Filter.emitCondition_withParameterLimit]
    rfl
  | delete x =>
    simp only [emit, Delete.emit, Filter.emitCondition_withParameterLimit]
    rfl

/-- Wherever a list stands, it is written in groups that are no longer than the dialect allows, with
one piece for each of its entries but NULL. -/
theorem Filter.groups_of_writes {e : Expr} {values : List Constant} {b b' : Buffer}
    (something : values ≠ []) (written : Writes (emitOneOf d e values) b b') :
    ∃ lhs groups,
      b' = b.addAll d.placeholder (Listing.layout .text lhs groups (values.any (·.isNull))) ∧
        groups.flatten.length = values.countP (!·.isNull) ∧
          (0 < d.features.maxInList → ∀ group ∈ groups, group.length ≤ d.features.maxInList) := by
  obtain ⟨lhs, ps, -, each, added⟩ := (writes_oneOf something).mp written
  refine ⟨lhs, _, added, ?_, fun limited group => length_le_of_mem_inGroups limited⟩
  rw [flatten_inGroups, ← each.length_eq, List.countP_eq_length_filter]

namespace Descriptor

theorem compile_withParameterLimit (mode : ParamMode) (x : Descriptor) :
    x.compile (d.withParameterLimit limit) mode = x.compile d mode := by
  rw [compile_eq, compile_eq, emit_withParameterLimit]
  rfl

/-- Whatever the limit on parameters is, the same is compiled or refused. A statement has one
parameter for each value that it writes and the dialect binds, in order, so it keeps to the limit
exactly if these are no more. It is no longer than the dialect allows, and wherever a list stands,
it is written in groups that are no longer than the dialect allows. -/
theorem parameters_within_iff (d : Dialect) (x : Descriptor) :
    (∀ limit mode, x.compile (d.withParameterLimit limit) mode = x.compile d mode) ∧
      (∀ s, x.compile d .bind = .ok s →
        d.BindsAs (x.cells d) s.params ∧
          (s.params.length ≤ d.features.maxParameters ↔
            ((x.cells d).countP fun cell => d.binds cell.2) ≤ d.features.maxParameters) ∧
            (0 < d.features.maxStatementLength →
              s.sql.utf8ByteSize ≤ d.features.maxStatementLength)) ∧
        ∀ (e : Expr) (values : List Constant) (b b' : Buffer), values ≠ [] →
          Writes (Filter.emitOneOf d e values) b b' →
            ∃ lhs groups,
              b' = b.addAll d.placeholder
                (Listing.layout .text lhs groups (values.any (·.isNull))) ∧
              groups.flatten.length = values.countP (!·.isNull) ∧
              (0 < d.features.maxInList →
                ∀ group ∈ groups, group.length ≤ d.features.maxInList) := by
  refine ⟨fun limit mode => x.compile_withParameterLimit d limit mode, fun s compiled => ?_,
    fun e values b b' something => Filter.groups_of_writes d something⟩
  have bound := binds_of_compile compiled
  have count : s.params.length = (x.cells d).countP fun cell => d.binds cell.2 := by
    rw [List.countP_eq_length_filter]
    exact (mapM_eq_ok_iff.mp bound).length_eq.symm
  refine ⟨bound, by rw [count], fun limited => ?_⟩
  rw [compile_eq] at compiled
  exact Buffer.size_le_of_finish (finish_of_compile compiled) limited

/-- Orders in a range of numbers, of one of two customers or of nobody. -/
def orders : Filter :=
  .and [
    .between (.column ⟨["Id"]⟩) (.ofInt 1) (.ofInt 5),
    .oneOf (.column ⟨["Customer"]⟩) [.ofInt 7, ⟨.null, .integer⟩, .ofInt 9]]

/-- Four of its five constants are bound; NULL is not. -/
theorem orders_within_limit :
    ∃ s, (filter orders).compile Builtin.sqlite.dialect .bind = .ok s ∧ s.params.length ≤ 999 := by
  have compiled : ((filter orders).compile Builtin.sqlite.dialect .bind).toOption.isSome = true := by
    decide +kernel
  cases h : (filter orders).compile Builtin.sqlite.dialect .bind with
  | error fault =>
    rw [h] at compiled
    cases compiled
  | ok s =>
    have within := ((parameters_within_iff Builtin.sqlite.dialect _).2.1 s h).2.1
    exact ⟨s, rfl, within.mpr (by decide)⟩

/-- A dialect that takes one parameter in a statement. -/
def single : Dialect := .custom "Custom" .quote .limit { maxParameters := 1 }

/-- An interval has two ends, and both are bound. -/
theorem limit_exceeded :
    (filter (.between (.column ⟨["Id"]⟩) (.ofInt 1) (.ofInt 2))).compile single .bind =
        .ok ⟨[.text "\"Id\"", .text " BETWEEN ", .marker "@P1", .text " AND ", .marker "@P2"],
          [⟨.int 1, .integer⟩, ⟨.int 2, .integer⟩], none⟩ ∧
      single.features.maxParameters = 1 := by
  decide +kernel

end Descriptor

end SqlScribe

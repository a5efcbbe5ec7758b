import SqlScribe.Proofs.Query.Aggregation
import SqlScribe.Proofs.Query.Steps

/-!
# Groups that are inferred

When the result columns of a query give its groups, what the groups are then, and which result
column is named if they do not.
-/

namespace SqlScribe

open Text

namespace Expr

/-- A column and an aggregate stand side by side in the expression. -/
def isMixed (e : Expr) : Bool := e.hasColumn && e.hasAggregate

/-- The expression has a value for each row and none for a group of them. -/
def isKey (e : Expr) : Bool := e.hasColumn && !e.hasAggregate

end Expr

/-- The result columns that a group has one value of, in their order. -/
def QueryOf.keys (q : Select) : List Expr := (q.columns.items.map NamedExpr.expr).filter Expr.isKey

namespace Draft

variable {d d' : Draft}

/-- The first result column that is mixed is named; without one, all keys are grouped by. -/
theorem groupable_eq (ns : List NamedExpr) :
    groupable ns = match ns.find? (·.expr.isMixed) with
      | some n => .error (.mixedAggregation n.label)
      | none => .ok ((ns.map NamedExpr.expr).filter Expr.isKey) := by
  induction ns with
  | nil => rfl
  | cons n rest ih =>
    rw [groupable, Expr.aggregation_eq, List.find?_cons, List.map_cons, List.filter_cons, ih,
      Expr.isMixed, Expr.isKey]
    cases n.expr.hasColumn <;> cases n.expr.hasAggregate
    · rfl
    · rfl
    · cases rest.find? (·.expr.isMixed) <;> rfl
    · rfl

/-- Only inferring the groups marks them as inferred. -/
theorem inferred_perform {step : Step} (made : d.perform step = .ok d') :
    d'.groupByInferred = true ↔ d.groupByInferred = true ∨ step = .inferGroupBy := by
  cases effect_of_perform made with
  | inferGroupBy _ => simp
  | column adds _ =>
    rw [or_iff_left]
    rintro rfl
    cases adds
  | _ => simp [withFilter, withHaving, withOrder, withOrderBy, withDistinct]

theorem inferred_iff {table : String} {steps : List Step} (made : built table steps = .ok d) :
    d.groupByInferred = true ↔ .inferGroupBy ∈ steps := by
  refine built_induction (motive := fun steps d => d.groupByInferred = true ↔ .inferGroupBy ∈ steps)
    ?_ ?_ made
  · intro d started
    obtain ⟨-, rfl⟩ := start_eq_ok.mp started
    simp
  · intro steps d step d' before made
    rw [inferred_perform made, before, List.mem_append, List.mem_singleton, @eq_comm _ step]

/-- A column that stands outside of the aggregates is found in what is grouped by. -/
theorem exists_group_of_column {q : Select} {groups : List Expr} {n : NamedExpr} {path : ColumnPath}
    (unmixed : ∀ n ∈ q.columns.items, n.expr.isMixed = false) (member : n ∈ q.columns.items)
    (outside : .column path ∈ n.expr.leaves) :
    ∃ g ∈ q.keys.foldl (taken Expr.equals) groups, .column path ∈ g.leaves := by
  have key : n.expr.isKey = true := by
    have column : n.expr.hasColumn = true := List.any_eq_true.mpr ⟨.column path, outside, rfl⟩
    have single := unmixed n member
    rw [Expr.isMixed, column, Bool.true_and] at single
    rw [Expr.isKey, column, single]
    rfl
  have listed : n.expr ∈ q.keys := List.mem_filter.mpr ⟨List.mem_map_of_mem member, key⟩
  have kept : ∃ g ∈ q.keys.foldl (taken Expr.equals) groups,
      g = n.expr ∨ g.equals n.expr = true := mem_or_same_foldl_taken listed
  obtain ⟨g, kept, rfl | same⟩ := kept
  · exact ⟨n.expr, kept, outside⟩
  · refine ⟨g, kept, ?_⟩
    rwa [Expr.column_mem_leaves, Expr.columns_of_equals g n.expr same, ← Expr.column_mem_leaves]

theorem groupable_eq_ok {ns : List NamedExpr} {groups : List Expr} :
    groupable ns = .ok groups ↔ (∀ n ∈ ns, n.expr.isMixed = false) ∧
      groups = (ns.map NamedExpr.expr).filter Expr.isKey := by
  rw [groupable_eq]
  cases found : ns.find? (·.expr.isMixed) with
  | some n =>
    have mixed := List.find?_some found
    have listed := List.mem_of_find?_eq_some found
    simp only [reduceCtorEq, false_iff, not_and]
    intro unmixed
    rw [unmixed n listed] at mixed
    cases mixed
  | none =>
    have unmixed (n : NamedExpr) (listed : n ∈ ns) : n.expr.isMixed = false :=
      Bool.eq_false_iff.mpr (List.find?_eq_none.mp found n listed)
    rw [Except.ok.injEq, @eq_comm _ _ groups]
    exact ⟨fun same => ⟨unmixed, same⟩, fun both => both.2⟩

theorem exists_inferGroupBy_iff :
    (∃ d', d.inferGroupBy = .ok d') ↔ d.groupByInferred = false ∧
      d.query.columns.items ≠ [] ∧ ∀ n ∈ d.query.columns.items, n.expr.isMixed = false := by
  constructor
  · rintro ⟨d', inferred⟩
    obtain ⟨first, something, groups, found, -⟩ := inferGroupBy_eq_ok.mp inferred
    exact ⟨first, something, (groupable_eq_ok.mp found).1⟩
  · rintro ⟨first, something, unmixed⟩
    exact ⟨_, inferGroupBy_eq_ok.mpr
      ⟨first, something, d.query.keys, groupable_eq_ok.mpr ⟨unmixed, rfl⟩, rfl⟩⟩

/-- The keys that are new become groups, and each column outside of the aggregates is in a group. -/
theorem query_of_inferGroupBy (inferred : d.inferGroupBy = .ok d') :
    d'.query = { d.query with
      groupBy := d.query.groupBy ++ newcomers Expr.equals d.query.groupBy d.query.keys } ∧
      ∀ n ∈ d.query.columns.items, ∀ path, .column path ∈ n.expr.leaves →
        ∃ g ∈ d'.query.groupBy, .column path ∈ g.leaves := by
  obtain ⟨-, -, groups, found, rfl⟩ := inferGroupBy_eq_ok.mp inferred
  obtain ⟨unmixed, rfl⟩ := groupable_eq_ok.mp found
  constructor
  · rw [← foldl_taken Expr.equals_trans]
    rfl
  · intro n member path outside
    exact exists_group_of_column unmixed member outside

/-- The first mixed result column is named. -/
theorem inferGroupBy_of_mixed {before after : List NamedExpr} {n : NamedExpr}
    (first : d.groupByInferred = false) (items : d.query.columns.items = before ++ n :: after)
    (unmixed : ∀ m ∈ before, m.expr.isMixed = false) (mixed : n.expr.isMixed = true) :
    d.inferGroupBy = .error (.mixedAggregation n.label) := by
  have found : d.query.columns.items.find? (·.expr.isMixed) = some n := by
    rw [items, List.find?_append,
      List.find?_eq_none.mpr fun m member => Bool.eq_false_iff.mp (unmixed m member),
      List.find?_cons, mixed]
    rfl
  have something : d.query.columns.isEmpty = false := by
    rw [Projection.isEmpty, items]
    cases before <;> rfl
  rw [inferGroupBy, first, something, groupable_eq, found]
  rfl

/-- Whatever steps have been taken, the groups can be inferred exactly if they have not been, there
is a result column, and none is mixed. The keys that are new become groups, nothing else changes,
and each column outside of the aggregates is then grouped by. What is wrong is told otherwise, and
the first mixed result column is named. -/
theorem inferGroupBy_of_built {table : String} {steps : List Step}
    (made : built table steps = .ok d) :
    ((∃ d', d.inferGroupBy = .ok d') ↔
        .inferGroupBy ∉ steps ∧ d.query.columns.items ≠ [] ∧
          ∀ n ∈ d.query.columns.items, n.expr.isMixed = false) ∧
      (∀ d', d.inferGroupBy = .ok d' →
        d'.query = { d.query with
          groupBy := d.query.groupBy ++ newcomers Expr.equals d.query.groupBy d.query.keys } ∧
        ∀ n ∈ d.query.columns.items, ∀ path, .column path ∈ n.expr.leaves →
          ∃ g ∈ d'.query.groupBy, .column path ∈ g.leaves) ∧
      (.inferGroupBy ∈ steps → d.inferGroupBy = .error (.groupByInitialized d.query.table)) ∧
      (.inferGroupBy ∉ steps → d.query.columns.items = [] →
        d.inferGroupBy = .error (.groupByEmptyProjection d.query.table)) ∧
      (.inferGroupBy ∉ steps → ∀ before n after,
        d.query.columns.items = before ++ n :: after →
        (∀ m ∈ before, m.expr.isMixed = false) → n.expr.isMixed = true →
          d.inferGroupBy = .error (.mixedAggregation n.label)) := by
  have once : .inferGroupBy ∉ steps ↔ d.groupByInferred = false := by
    rw [← inferred_iff made, Bool.not_eq_true]
  refine ⟨?_, fun d' => query_of_inferGroupBy, ?_, ?_, ?_⟩
  · rw [once]
    exact exists_inferGroupBy_iff
  · intro again
    rw [inferGroupBy, (inferred_iff made).mpr again]
    rfl
  · intro first nothing
    rw [inferGroupBy, once.mp first, Projection.isEmpty, nothing]
    rfl
  · intro first before n after items unmixed mixed
    exact inferGroupBy_of_mixed (once.mp first) items unmixed mixed

/-- The steps that ask for the sales of each place in each region. -/
def placeSales : List Step :=
  [.withGroupBy (.column ⟨["Region"]⟩), .withColumn (.column ⟨["Region"]⟩),
    .withColumnAs (.function .trim [.column ⟨["City"]⟩]) "Place",
    .withColumnAs (.aggregate .sum (some (.column ⟨["Amount"]⟩))) "Total"]

/-- The result columns that the steps ask for. -/
def placeSalesColumns : List NamedExpr :=
  [⟨.column ⟨["Region"]⟩, "Region"⟩, ⟨.function .trim [.column ⟨["City"]⟩], "Place"⟩,
    ⟨.aggregate .sum (some (.column ⟨["Amount"]⟩)), "Total"⟩]

/-- A goal that has been set for an amount, and otherwise the greatest one. -/
def goalOrGreatest : Expr :=
  .function .coalesce [.column ⟨["Goal"]⟩, .aggregate .max (some (.column ⟨["Amount"]⟩))]

/-- Places become groups, and regions do not for a second time; a mixed result column is named. -/
theorem inferGroupBy_of_built_placeSales :
    (∃ d d', built "Sales" placeSales = .ok d ∧ d.inferGroupBy = .ok d' ∧
        d'.query.groupBy = [.column ⟨["Region"]⟩, .function .trim [.column ⟨["City"]⟩]]) ∧
      ∃ d, built "Sales" (placeSales ++ [.withColumnAs goalOrGreatest "Share"]) = .ok d ∧
        d.inferGroupBy = .error (.mixedAggregation "Share") := by
  have visible : isAllBlank "Sales" = false ∧ isAllBlank "Place" = false ∧
      isAllBlank "Total" = false ∧ isAllBlank "Share" = false := by
    decide +kernel
  have differing : sameName "Region" "Place" = false ∧ sameName "Region" "Total" = false ∧
      sameName "Place" "Total" = false ∧ sameName "Region" "Share" = false ∧
      sameName "Place" "Share" = false ∧ sameName "Total" "Share" = false := by
    decide +kernel
  have sound : built "Sales" placeSales = .ok ⟨⟨"Sales", none, ⟨placeSalesColumns⟩, none,
      [.column ⟨["Region"]⟩], none, none, 0, false⟩, false⟩ := by
    simp [built, placeSales, placeSalesColumns, start, perform, withGroupBy, withColumn,
      withColumnAs, withNamed, NamedExpr.ofExpr, Expr.asColumn?, ColumnPath.name, NamedExpr.named,
      Projection.push, Projection.find?, Projection.empty, visible, differing, bind, Except.bind,
      pure, Except.pure]
  have mixed : built "Sales" (placeSales ++ [.withColumnAs goalOrGreatest "Share"]) =
      .ok ⟨⟨"Sales", none, ⟨placeSalesColumns ++ [⟨goalOrGreatest, "Share"⟩]⟩, none,
        [.column ⟨["Region"]⟩], none, none, 0, false⟩, false⟩ := by
    rw [built_concat, sound]
    simp [perform, withColumnAs, withNamed, placeSalesColumns, NamedExpr.named, Projection.push,
      Projection.find?, visible, differing, bind, Except.bind, pure, Except.pure]
  have fresh : .inferGroupBy ∉ placeSales ∧
      .inferGroupBy ∉ placeSales ++ [.withColumnAs goalOrGreatest "Share"] := by
    simp [placeSales]
  obtain ⟨⟨-, possible⟩, grouped, -⟩ := inferGroupBy_of_built sound
  obtain ⟨-, -, -, -, refused⟩ := inferGroupBy_of_built mixed
  obtain ⟨d', inferred⟩ := possible
    ⟨fresh.1, List.cons_ne_nil _ _, by simp [placeSalesColumns]; decide⟩
  refine ⟨⟨_, d', sound, inferred, ?_⟩, _, mixed, ?_⟩
  · rw [(grouped d' inferred).1]
    rfl
  · exact refused fresh.2 placeSalesColumns _ [] rfl (by simp [placeSalesColumns]; decide) rfl

end Draft

end SqlScribe

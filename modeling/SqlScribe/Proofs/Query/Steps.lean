import SqlScribe.Proofs.Newcomers
import SqlScribe.Proofs.Statement.Script
import SqlScribe.Query.Builder

/-!
# Building a query step by step

Which steps succeed and what each of them adds, said once for every step. What the start has and
every step keeps holds of every query that is built.
-/

namespace SqlScribe

open Text

namespace Projection

variable {p p' : Projection} {n : NamedExpr}

/-- A result column is taken exactly if no other one has its alias. -/
theorem push_eq_ok :
    p.push n = .ok p' ↔
      (∀ m ∈ p.items, sameName m.label n.label = false) ∧ p' = ⟨p.items ++ [n]⟩ := by
  unfold push find?
  cases taken : p.items.find? fun m => sameName m.label n.label with
  | some m =>
    have same := List.find?_some taken
    simp only [reduceCtorEq, false_iff, not_and]
    intro free
    have other := free m (List.mem_of_find?_eq_some taken)
    rw [same] at other
    cases other
  | none =>
    have free := List.find?_eq_none.mp taken
    simp only [Bool.not_eq_true] at free
    rw [Except.ok.injEq]
    exact ⟨fun same => ⟨free, same.symm⟩, fun both => both.2.symm⟩

end Projection

namespace Draft

variable {d d' : Draft}

theorem start_eq_ok {table : String} :
    start table = .ok d ↔ isAllBlank table = false ∧
      d = ⟨⟨table, none, .empty, none, [], none, none, 0, false⟩, false⟩ := by
  unfold start
  cases isAllBlank table <;> simp [eq_comm]

theorem withAlias_eq_ok {name : String} :
    d.withAlias name = .ok d' ↔ isAllBlank name = false ∧
      d' = { d with query := { d.query with tableAlias := some name } } := by
  unfold withAlias
  cases isAllBlank name <;> simp [eq_comm]

theorem withNamed_eq_ok {n : NamedExpr} :
    d.withNamed n = .ok d' ↔
      (∀ m ∈ d.query.columns.items, sameName m.label n.label = false) ∧
        d' = { d with query := { d.query with columns := ⟨d.query.columns.items ++ [n]⟩ } } := by
  unfold withNamed
  cases pushed : d.query.columns.push n with
  | error fault =>
    simp only [bind, Except.bind, reduceCtorEq, false_iff, not_and]
    intro free
    rw [Projection.push_eq_ok.mpr ⟨free, rfl⟩] at pushed
    cases pushed
  | ok columns =>
    obtain ⟨free, rfl⟩ := Projection.push_eq_ok.mp pushed
    simp only [bind, Except.bind, pure, Except.pure, Except.ok.injEq]
    exact ⟨fun same => ⟨free, same.symm⟩, fun both => both.2.symm⟩

/-- A grouping is put last, unless it is there already. -/
theorem withGroupBy_eq (d : Draft) (e : Expr) :
    d.withGroupBy e =
      { d with query := { d.query with groupBy := taken Expr.equals d.query.groupBy e } } := by
  unfold withGroupBy taken
  split <;> rfl

theorem foldl_withGroupBy_eq (es : List Expr) (d : Draft) :
    es.foldl withGroupBy d = { d with query := { d.query with
      groupBy := es.foldl (taken Expr.equals) d.query.groupBy } } := by
  induction es generalizing d with
  | nil => rfl
  | cons e rest ih => rw [List.foldl_cons, ih, withGroupBy_eq, List.foldl_cons]

theorem inferGroupBy_eq_ok :
    d.inferGroupBy = .ok d' ↔
      d.groupByInferred = false ∧ d.query.columns.items ≠ [] ∧
        ∃ groups, groupable d.query.columns.items = .ok groups ∧
          d' = ⟨{ d.query with groupBy := groups.foldl (taken Expr.equals) d.query.groupBy },
            true⟩ := by
  unfold inferGroupBy Projection.isEmpty
  cases d.groupByInferred with
  | true => simp
  | false =>
    cases items : d.query.columns.items with
    | nil => simp
    | cons n rest =>
      simp only [Bool.false_eq_true, if_false, List.isEmpty_cons, bind_eq_ok_iff, true_and, ne_eq,
        reduceCtorEq, not_false_eq_true, foldl_withGroupBy_eq, pure, Except.pure, Except.ok.injEq,
        @eq_comm _ _ d']

theorem withMaxRows_eq_ok {count : Int64} :
    d.withMaxRows count = .ok d' ↔ ¬ count < 0 ∧
      d' = { d with query := { d.query with maxRows := count.toInt.toNat } } := by
  unfold withMaxRows
  split <;> simp [*, eq_comm]

/-- One step in building a query. -/
inductive Step
  | withAlias (name : String)
  | withColumn (e : Expr)
  | withColumnAs (e : Expr) (label : String)
  | withNamed (n : NamedExpr)
  | withFilter (f : Filter)
  | withGroupBy (e : Expr)
  | inferGroupBy
  | withHaving (f : Filter)
  | withOrder (order : Order)
  | withOrderBy (e : Expr) (direction : Direction)
  | withMaxRows (count : Int64)
  | withDistinct

/-- The query after a step. -/
def perform (d : Draft) : Step → Except Fault Draft
  | .withAlias name => d.withAlias name
  | .withColumn e => d.withColumn e
  | .withColumnAs e label => d.withColumnAs e label
  | .withNamed n => d.withNamed n
  | .withFilter f => .ok (d.withFilter f)
  | .withGroupBy e => .ok (d.withGroupBy e)
  | .inferGroupBy => d.inferGroupBy
  | .withHaving f => .ok (d.withHaving f)
  | .withOrder order => .ok (d.withOrder order)
  | .withOrderBy e direction => .ok (d.withOrderBy e direction)
  | .withMaxRows count => d.withMaxRows count
  | .withDistinct => .ok d.withDistinct

/-- The result column that a step adds, if it adds one and there is such a column. -/
def Step.column? : Step → Option NamedExpr
  | withColumn e => (NamedExpr.ofExpr e).toOption
  | withColumnAs e label => (NamedExpr.named e label).toOption
  | withNamed n => some n
  | _ => none

/-- What a step that succeeds does to a query. -/
inductive Effect (d : Draft) : Step → Draft → Prop
  | withAlias {name : String} (visible : isAllBlank name = false) :
      Effect d (.withAlias name) { d with query := { d.query with tableAlias := some name } }
  | column {step : Step} {n : NamedExpr} (adds : step.column? = some n)
      (free : ∀ m ∈ d.query.columns.items, sameName m.label n.label = false) :
      Effect d step { d with query := { d.query with columns := ⟨d.query.columns.items ++ [n]⟩ } }
  | withFilter (f : Filter) : Effect d (.withFilter f) (d.withFilter f)
  | withGroupBy (e : Expr) : Effect d (.withGroupBy e)
      { d with query := { d.query with groupBy := taken Expr.equals d.query.groupBy e } }
  | inferGroupBy {groups : List Expr} (found : groupable d.query.columns.items = .ok groups) :
      Effect d .inferGroupBy
        ⟨{ d.query with groupBy := groups.foldl (taken Expr.equals) d.query.groupBy }, true⟩
  | withHaving (f : Filter) : Effect d (.withHaving f) (d.withHaving f)
  | withOrder (order : Order) : Effect d (.withOrder order) (d.withOrder order)
  | withOrderBy (e : Expr) (direction : Direction) :
      Effect d (.withOrderBy e direction) (d.withOrderBy e direction)
  | withMaxRows {count : Int64} : Effect d (.withMaxRows count)
      { d with query := { d.query with maxRows := count.toInt.toNat } }
  | withDistinct : Effect d .withDistinct d.withDistinct

theorem effect_of_perform {step : Step} (made : d.perform step = .ok d') : d.Effect step d' := by
  have column {n : NamedExpr} (adds : step.column? = some n) (made : d.withNamed n = .ok d') :
      d.Effect step d' := by
    obtain ⟨free, rfl⟩ := withNamed_eq_ok.mp made
    exact .column adds free
  cases step with
  | withAlias name =>
    obtain ⟨visible, rfl⟩ := withAlias_eq_ok.mp made
    exact .withAlias visible
  | withColumn e =>
    obtain ⟨n, named, made⟩ := bind_eq_ok_iff.mp made
    exact column (by rw [Step.column?, named]; rfl) made
  | withColumnAs e label =>
    obtain ⟨n, named, made⟩ := bind_eq_ok_iff.mp made
    exact column (by rw [Step.column?, named]; rfl) made
  | withNamed n => exact column rfl made
  | withFilter f =>
    cases made
    exact .withFilter f
  | withGroupBy e =>
    cases made
    rw [withGroupBy_eq]
    exact .withGroupBy e
  | inferGroupBy =>
    obtain ⟨-, -, groups, found, rfl⟩ := inferGroupBy_eq_ok.mp made
    exact .inferGroupBy found
  | withHaving f =>
    cases made
    exact .withHaving f
  | withOrder order =>
    cases made
    exact .withOrder order
  | withOrderBy e direction =>
    cases made
    exact .withOrderBy e direction
  | withMaxRows count =>
    obtain ⟨-, rfl⟩ := withMaxRows_eq_ok.mp made
    exact .withMaxRows
  | withDistinct =>
    cases made
    exact .withDistinct

/-- The query on a table that a sequence of steps builds, if all of them succeed. -/
def built (table : String) (steps : List Step) : Except Fault Draft := do
  steps.foldlM perform (← start table)

theorem built_concat (table : String) (steps : List Step) (step : Step) :
    built table (steps ++ [step]) = built table steps >>= (perform · step) := by
  simp only [built, List.foldlM_append, List.foldlM_cons, List.foldlM_nil, bind_pure, bind_assoc]

/-- What holds at the start and is kept by every step that succeeds holds after all steps. -/
theorem built_induction {table : String} {motive : List Step → Draft → Prop}
    (first : ∀ d, start table = .ok d → motive [] d)
    (next : ∀ steps d step d', motive steps d → d.perform step = .ok d' →
      motive (steps ++ [step]) d')
    {steps : List Step} (made : built table steps = .ok d) : motive steps d := by
  induction steps using List.reverseRecOn generalizing d with
  | nil =>
    obtain ⟨initial, started, made⟩ := bind_eq_ok_iff.mp made
    cases made
    exact first _ started
  | append_singleton steps step ih =>
    rw [built_concat] at made
    obtain ⟨before, run, last⟩ := bind_eq_ok_iff.mp made
    exact next steps before step d (ih run) last

end Draft

end SqlScribe

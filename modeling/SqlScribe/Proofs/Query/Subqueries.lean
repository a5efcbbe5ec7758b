import SqlScribe.Proofs.Query.Steps

/-!
# Queries within queries

A condition may ask for membership in what another query returns. The queries that stand in the
conditions of a query are those that stand in the conditions it was built with.
-/

namespace SqlScribe

namespace Filter

mutual

/-- The queries that a condition asks for, those within them not included. -/
def subqueries : Filter → List Select
  | inSubquery _ q => [q]
  | and parts | or parts => subqueriesOf parts
  | not part => part.subqueries
  | compare _ _ _ _ | compareNull _ _ | oneOf _ _ | startsWith _ _ | contains _ _
  | between _ _ _ | constant _ => []

def subqueriesOf : List Filter → List Select
  | [] => []
  | f :: rest => f.subqueries ++ subqueriesOf rest

end

theorem subqueriesOf_eq_flatMap (fs : List Filter) : subqueriesOf fs = fs.flatMap subqueries := by
  induction fs with
  | nil => rfl
  | cons f rest ih => rw [subqueriesOf, ih, List.flatMap_cons]

/-- Two conditions that are joined ask for what each of them asks for. -/
theorem subqueries_conjoin (f g : Filter) :
    (f.conjoin g).subqueries = f.subqueries ++ g.subqueries := by
  unfold conjoin
  split <;> simp [subqueries, subqueriesOf_eq_flatMap]

end Filter

namespace QueryOf

/-- The queries that stand in the conditions of a query, those within them not included. -/
def subqueries (q : Select) : List Select :=
  (q.filter.map Filter.subqueries).getD [] ++ (q.having.map Filter.subqueries).getD []

/-- A query that is another one or stands within it, at any depth. -/
inductive Within (s : Select) : Select → Prop
  | self : Within s s
  | deeper {q r : Select} (member : r ∈ q.subqueries) (inside : Within s r) : Within s q

end QueryOf

namespace Draft

variable {d d' : Draft} {s : Select}

/-- The condition that a step adds, if it adds one. -/
def Step.condition? : Step → Option Filter
  | withFilter f | withHaving f => some f
  | _ => none

theorem mem_subqueries_withFilter {f : Filter} :
    s ∈ (d.withFilter f).query.subqueries ↔ s ∈ d.query.subqueries ∨ s ∈ f.subqueries := by
  simp only [QueryOf.subqueries, withFilter, List.mem_append, Option.map_some, Option.getD_some]
  cases d.query.filter with
  | none => simp [or_comm]
  | some present => simp [Filter.subqueries_conjoin, or_right_comm]

theorem mem_subqueries_withHaving {f : Filter} :
    s ∈ (d.withHaving f).query.subqueries ↔ s ∈ d.query.subqueries ∨ s ∈ f.subqueries := by
  simp only [QueryOf.subqueries, withHaving, List.mem_append, Option.map_some, Option.getD_some]
  cases d.query.having with
  | none => simp
  | some present => simp [Filter.subqueries_conjoin, or_assoc]

theorem mem_subqueries_perform {step : Step} (made : d.perform step = .ok d')
    (member : s ∈ d'.query.subqueries) :
    s ∈ d.query.subqueries ∨ ∃ f, step.condition? = some f ∧ s ∈ f.subqueries := by
  cases effect_of_perform made with
  | withFilter f => exact (mem_subqueries_withFilter.mp member).imp_right fun here => ⟨f, rfl, here⟩
  | withHaving f => exact (mem_subqueries_withHaving.mp member).imp_right fun here => ⟨f, rfl, here⟩
  | _ => exact .inl member

/-- The queries within a query that is built come from the conditions it is built with. -/
theorem exists_condition_of_built {table : String} {steps : List Step}
    (made : built table steps = .ok d) (member : s ∈ d.query.subqueries) :
    ∃ step ∈ steps, ∃ f, step.condition? = some f ∧ s ∈ f.subqueries := by
  revert member
  refine built_induction (motive := fun steps d => s ∈ d.query.subqueries →
    ∃ step ∈ steps, ∃ f, step.condition? = some f ∧ s ∈ f.subqueries) ?_ ?_ made
  · intro d started member
    obtain ⟨-, rfl⟩ := start_eq_ok.mp started
    cases member
  · intro steps d step d' before made member
    obtain earlier | ⟨f, adds, here⟩ := mem_subqueries_perform made member
    · obtain ⟨other, among, found⟩ := before earlier
      exact ⟨other, List.mem_append_left _ among, found⟩
    · exact ⟨step, List.mem_append_right _ (List.mem_singleton_self step), f, adds, here⟩

end Draft

end SqlScribe

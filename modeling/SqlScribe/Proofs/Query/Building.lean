import SqlScribe.Proofs.Query.Checked
import SqlScribe.Proofs.Query.Grouping
import SqlScribe.Proofs.Query.WellFormed

/-!
# What building a query keeps

Every step that succeeds keeps the table and the aliases visible, the aliases and the groups
different, and all parts checked. So every query that is built has these properties.
-/

namespace SqlScribe

open Text

/-- What the building steps keep. -/
structure QueryOf.Sound (q : Select) : Prop where
  table : isAllBlank q.table = false
  shortName : ∀ name, q.tableAlias = some name → isAllBlank name = false
  columns : ∀ n ∈ q.columns.items, n.Checked
  labels : q.columns.items.Pairwise fun a b => sameName a.label b.label = false
  filter : ∀ f, q.filter = some f → f.Checked
  groups : ∀ e ∈ q.groupBy, e.Checked
  differing : q.groupBy.Pairwise fun a b => a.equals b = false
  having : ∀ f, q.having = some f → f.Checked
  order : ∀ terms, q.order = some terms → ∀ t ∈ terms, t.Checked
  cap : q.maxRows ≤ 9223372036854775807

/-- Conditions that are joined stay checked. -/
theorem Filter.Checked.conjoin {f g : Filter} (left : f.Checked) (right : g.Checked) :
    (f.conjoin g).Checked := by
  unfold Filter.conjoin
  split
  · rename_i fs gs
    cases left with
    | and first =>
      cases right with
      | and second =>
        exact .and fun f member => (List.mem_append.mp member).elim (first f) (second f)
  · rename_i fs g _
    cases left with
    | and first =>
      refine .and fun f member => ?_
      obtain inside | last := List.mem_append.mp member
      · exact first f inside
      · rw [List.mem_singleton.mp last]
        exact right
  · rename_i f gs _
    cases right with
    | and second => exact .and (List.forall_mem_cons.mpr ⟨left, second⟩)
  · exact .and (List.forall_mem_cons.mpr ⟨left, List.forall_mem_singleton.mpr right⟩)

theorem QueryOf.Sound.wellFormed {q : Select} (h : q.Sound) : q.WellFormed := { h with }

namespace Draft

variable {d d' : Draft}

theorem sound_withGroupBy (h : d.query.Sound) {e : Expr} (checked : e.Checked) :
    (d.withGroupBy e).query.Sound := by
  have kept := wellFormed_perform (.withGroupBy e) h.wellFormed rfl
  rw [withGroupBy_eq] at kept ⊢
  refine { kept, h with groups := ?_ }
  intro g member
  obtain inside | rfl := mem_taken member
  · exact h.groups g inside
  · exact checked

theorem sound_start {table : String} (made : start table = .ok d) : d.query.Sound := by
  have fresh := wellFormed_start made
  obtain ⟨-, rfl⟩ := start_eq_ok.mp made
  exact { fresh with
    columns := nofun
    filter := nofun
    groups := nofun
    having := nofun
    order := nofun }

theorem sound_withAlias {name : String} (h : d.query.Sound) (made : d.withAlias name = .ok d') :
    d'.query.Sound := by
  have kept := wellFormed_perform (.withAlias name) h.wellFormed made
  obtain ⟨-, rfl⟩ := withAlias_eq_ok.mp made
  exact { kept, h with }

theorem sound_withNamed {n : NamedExpr} (h : d.query.Sound) (column : n.Checked)
    (made : d.withNamed n = .ok d') : d'.query.Sound := by
  have kept := wellFormed_perform (.withNamed n) h.wellFormed made
  obtain ⟨-, rfl⟩ := withNamed_eq_ok.mp made
  refine { kept, h with columns := ?_ }
  intro m member
  obtain inside | new := List.mem_append.mp member
  · exact h.columns m inside
  · rw [List.mem_singleton.mp new]
    exact column

theorem sound_withFilter {f : Filter} (h : d.query.Sound) (condition : f.Checked) :
    (d.withFilter f).query.Sound := by
  refine { h with filter := ?_ }
  rintro _ ⟨⟩
  split
  · rename_i present found
    exact (h.filter present found).conjoin condition
  · exact condition

theorem sound_withHaving {f : Filter} (h : d.query.Sound) (condition : f.Checked) :
    (d.withHaving f).query.Sound := by
  refine { h with having := ?_ }
  rintro _ ⟨⟩
  split
  · rename_i present found
    exact (h.having present found).conjoin condition
  · exact condition

theorem sound_inferGroupBy (h : d.query.Sound) (made : d.inferGroupBy = .ok d') :
    d'.query.Sound := by
  have kept := wellFormed_perform .inferGroupBy h.wellFormed made
  obtain ⟨-, -, groups, found, rfl⟩ := inferGroupBy_eq_ok.mp made
  refine { kept, h with groups := ?_ }
  intro e member
  obtain inside | new := mem_foldl_taken member
  · exact h.groups e inside
  · rw [(groupable_eq_ok.mp found).2] at new
    obtain ⟨n, listed, rfl⟩ := List.mem_map.mp (List.mem_of_mem_filter new)
    exact (h.columns n listed).parts.1

theorem sound_withOrder {order : Order} (h : d.query.Sound) (terms : ∀ t ∈ order, t.Checked) :
    (d.withOrder order).query.Sound := by
  refine { h with order := ?_ }
  rintro _ ⟨⟩
  exact terms

theorem sound_withOrderBy {e : Expr} {direction : Direction} (h : d.query.Sound)
    (term : e.Checked) : (d.withOrderBy e direction).query.Sound := by
  apply sound_withOrder h
  intro t member
  obtain inside | new := List.mem_append.mp member
  · cases present : d.query.order with
    | none =>
      rw [present] at inside
      cases inside
    | some terms =>
      rw [present] at inside
      exact h.order terms present t inside
  · rw [List.mem_singleton.mp new]
    exact ⟨term, nofun⟩

theorem sound_withMaxRows {count : Int64} (h : d.query.Sound)
    (made : d.withMaxRows count = .ok d') : d'.query.Sound := by
  have kept := wellFormed_perform (.withMaxRows count) h.wellFormed made
  obtain ⟨-, rfl⟩ := withMaxRows_eq_ok.mp made
  exact { kept, h with }

/-- Whatever steps have built a query, it is sound. -/
theorem Reached.sound : {d : Draft} → d.Reached → d.query.Sound
  | _, .start made => sound_start made
  | _, .withAlias before made => sound_withAlias before.sound made
  | _, .withNamed before column made => sound_withNamed before.sound column made
  | _, .withFilter before condition => sound_withFilter before.sound condition
  | _, .withGroupBy before group => sound_withGroupBy before.sound group
  | _, .inferGroupBy before made => sound_inferGroupBy before.sound made
  | _, .withHaving before condition => sound_withHaving before.sound condition
  | _, .withOrder before terms => sound_withOrder before.sound terms
  | _, .withOrderBy before term => sound_withOrderBy before.sound term
  | _, .withMaxRows before made => sound_withMaxRows before.sound made
  | _, .withDistinct before => { before.sound with }

end Draft

end SqlScribe

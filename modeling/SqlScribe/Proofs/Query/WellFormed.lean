import SqlScribe.Proofs.Query.Steps

/-!
# What every query that is built has

The table and its short name are visible, no two result columns share an alias, no two groups are
the same, and the cap is one that can be asked for. The result columns stand in the order in which
they were added.
-/

namespace SqlScribe

open Text

/-- What every step keeps, whatever it is given. -/
structure QueryOf.WellFormed {Condition : Type} (q : QueryOf Condition) : Prop where
  table : isAllBlank q.table = false
  shortName : ∀ name, q.tableAlias = some name → isAllBlank name = false
  labels : q.columns.items.Pairwise fun a b => sameName a.label b.label = false
  differing : q.groupBy.Pairwise fun a b => a.equals b = false
  cap : q.maxRows ≤ 9223372036854775807

namespace Projection

/-- Two result columns have the same alias. -/
def sameLabel (m n : NamedExpr) : Bool := sameName m.label n.label

/-- What comes of adding a result column, and the projection afterwards. -/
def offer (p : Projection) (n : NamedExpr) : Except Fault Unit × Projection :=
  match p.push n with
  | .ok p' => (.ok (), p')
  | .error fault => (.error fault, p)

/-- The projection after adding one result column after the other, whatever comes of it. -/
def offerAll (p : Projection) (ns : List NamedExpr) : Projection :=
  ns.foldl (fun p n => (p.offer n).2) p

/-- An alias that is there is reported, and then nothing is added. -/
theorem offer_eq (p : Projection) (n : NamedExpr) :
    p.offer n = if p.items.any (sameLabel · n) then (.error (.aliasCollision n.label), p)
      else (.ok (), ⟨p.items ++ [n]⟩) := by
  unfold offer push find?
  cases found : p.items.find? fun m => sameName m.label n.label with
  | none =>
    have fresh : p.items.any (sameLabel · n) = false :=
      List.any_eq_false.mpr (List.find?_eq_none.mp found)
    rw [fresh]
    rfl
  | some m =>
    have same := List.find?_some found
    have repeated : p.items.any (sameLabel · n) = true :=
      List.any_eq_true.mpr ⟨m, List.mem_of_find?_eq_some found, same⟩
    rw [repeated]
    rfl

theorem items_offerAll (p : Projection) (ns : List NamedExpr) :
    (p.offerAll ns).items = p.items ++ newcomers sameLabel p.items ns := by
  have each (p : Projection) (n : NamedExpr) :
      (p.offer n).2 = ⟨taken sameLabel p.items n⟩ := by
    rw [offer_eq, taken]
    split <;> rfl
  have chained (l m n : NamedExpr) (first : sameLabel l m = true) (second : sameLabel m n = true) :
      sameLabel l n = true := by
    rw [sameLabel, sameName, beq_iff_eq] at *
    exact first.trans second
  have run : (p.offerAll ns).items = ns.foldl (taken sameLabel) p.items := by
    induction ns generalizing p with
    | nil => rfl
    | cons n rest ih =>
      rw [offerAll, List.foldl_cons, each]
      exact ih _
  rw [run, foldl_taken chained]

end Projection

namespace Draft

variable {d d' : Draft}

theorem wellFormed_start {table : String} (made : start table = .ok d) : d.query.WellFormed := by
  obtain ⟨visible, rfl⟩ := start_eq_ok.mp made
  exact {
    table := visible
    shortName := nofun
    labels := .nil
    differing := .nil
    cap := Nat.zero_le _ }

theorem wellFormed_perform (step : Step) (h : d.query.WellFormed)
    (made : d.perform step = .ok d') : d'.query.WellFormed := by
  cases effect_of_perform made with
  | withAlias visible =>
    refine { h with shortName := ?_ }
    rintro _ ⟨⟩
    exact visible
  | column _ free =>
    refine { h with
      labels := List.pairwise_append.mpr ⟨h.labels, List.pairwise_singleton _ _, ?_⟩ }
    intro m inside m' new
    rw [List.mem_singleton.mp new]
    exact free m inside
  | withGroupBy e => exact { h with differing := pairwise_taken h.differing e }
  | inferGroupBy _ => exact { h with differing := pairwise_foldl_taken h.differing _ }
  | withMaxRows =>
    rename_i count
    refine { h with cap := ?_ }
    have bound := count.toInt_lt
    dsimp
    omega
  | withFilter _ | withHaving _ | withOrder _ | withOrderBy _ _ | withDistinct => exact { h with }

/-- Whatever steps have built a query, it is well formed. -/
theorem wellFormed_of_built {table : String} {steps : List Step}
    (made : built table steps = .ok d) : d.query.WellFormed :=
  built_induction (motive := fun _ d => d.query.WellFormed) (fun _ => wellFormed_start)
    (fun _ _ step _ => wellFormed_perform step) made

theorem columns_perform {step : Step} (made : d.perform step = .ok d') :
    d'.query.columns.items = d.query.columns.items ++ step.column?.toList := by
  cases effect_of_perform made with
  | column adds _ => rw [adds, Option.toList_some]
  | _ => exact (List.append_nil _).symm

/-- The result columns of a query stand in the order in which the steps have added them. -/
theorem columns_of_built {table : String} {steps : List Step} (made : built table steps = .ok d) :
    d.query.columns.items = steps.filterMap Step.column? := by
  refine built_induction
    (motive := fun steps d => d.query.columns.items = steps.filterMap Step.column?) ?_ ?_ made
  · intro d started
    obtain ⟨-, rfl⟩ := start_eq_ok.mp started
    rfl
  · intro steps d step d' before made
    rw [columns_perform made, before, List.filterMap_append]
    rfl

end Draft

end SqlScribe

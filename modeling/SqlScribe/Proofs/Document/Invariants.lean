import SqlScribe.Proofs.Document.Subqueries
import SqlScribe.Proofs.Query.WellFormed

/-!
# What every query there is has

Queries are built or read, and the conditions they are built with hold queries that have been made
before. So each of them is well formed, and so is each query within it.
-/

namespace SqlScribe

open Json

/-- The queries there are: those that are built, those that are read, and those that stand in
conditions that are read. -/
inductive QueryOf.Made : Select → Prop
  | built {table : String} {steps : List Draft.Step} {d : Draft}
      (made : Draft.built table steps = .ok d)
      (conditions : ∀ step ∈ steps, ∀ f, step.condition? = some f → ∀ s ∈ f.subqueries, Made s) :
      Made d.query
  | read {doc : Source} {q : Select} (made : Select.ofJson doc = .ok q) : Made q
  | readWithin {doc : Source} {f : Filter} {s : Select} (made : Filter.ofJson doc = .ok f)
      (member : s ∈ f.subqueries) : Made s

/-- Whatever has been read as a query is well formed, and its result columns are those of its
document. -/
theorem Select.wellFormed_of_readLevels {fuel : Nat} {doc : Source} {q : Select}
    (read : Select.readLevels fuel doc = .ok q) :
    q.WellFormed ∧ List.Forall₂ (fun item n => NamedExpr.ofJson item = .ok n)
      (columnDocuments doc) q.columns.items := by
  cases fuel with
  | zero => cases read
  | succ fuel =>
    obtain ⟨parts, built, listed, -⟩ := parts_of_readLevels read
    obtain ⟨d, run, rfl⟩ := QueryParts.exists_run built
    refine ⟨Draft.wellFormed_of_built run, ?_⟩
    rw [Draft.columns_of_built run, QueryParts.columns_steps]
    exact listed

theorem QueryOf.Made.wellFormed {q : Select} (made : q.Made) :
    ∀ s : Select, s.Within q → s.WellFormed := by
  have read {fuel : Nat} {doc : Source} {q s : Select} (made : Select.readLevels fuel doc = .ok q)
      (inside : s.Within q) : s.WellFormed := by
    obtain ⟨levels, inner, -, found⟩ := Select.exists_document made inside
    exact (Select.wellFormed_of_readLevels found).1
  induction made with
  | built made _ ih =>
    intro s inside
    cases inside with
    | self => exact Draft.wellFormed_of_built made
    | deeper member inside =>
      obtain ⟨step, among, f, adds, asked⟩ := Draft.exists_condition_of_built made member
      exact ih step among f adds _ asked s inside
  | read made => exact fun s inside => read made inside
  | readWithin made member =>
    intro s inside
    obtain ⟨levels, inner, -, found⟩ := Filter.exists_document made member
    exact read found inside

/-- Every query there is, is well formed, and so is every query within it. What is built has its
result columns in the order in which they were added, and what is read has them in the order of its
document. A result column is refused exactly if its alias is there already, and then nothing is
added; of many that are offered those are taken whose alias is new. -/
theorem QueryOf.invariants :
    (∀ q : Select, q.Made → ∀ s : Select, s.Within q → s.WellFormed) ∧
      (∀ table steps d, Draft.built table steps = .ok d →
        d.query.columns.items = steps.filterMap Draft.Step.column?) ∧
      (∀ doc q, Select.ofJson doc = .ok q → ∀ s : Select, s.Within q → ∃ inner : Source,
        inner.PartOf doc ∧ List.Forall₂ (fun item n => NamedExpr.ofJson item = .ok n)
          (Select.columnDocuments inner) s.columns.items) ∧
      ∀ p : Projection,
        (∀ n, p.offer n = if p.items.any (Projection.sameLabel · n)
          then (.error (.aliasCollision n.label), p) else (.ok (), ⟨p.items ++ [n]⟩)) ∧
        ∀ ns, (p.offerAll ns).items =
          p.items ++ newcomers Projection.sameLabel p.items ns := by
  refine ⟨fun q made => made.wellFormed, fun table steps d made => Draft.columns_of_built made, ?_,
    fun p => ⟨p.offer_eq, p.items_offerAll⟩⟩
  intro doc q read s inside
  obtain ⟨levels, inner, part, found⟩ := Select.exists_document read inside
  exact ⟨inner, part, (Select.wellFormed_of_readLevels found).2⟩

/-- The document of a query for the largest cities, one of whose result columns has an alias. -/
def Json.largeCities : Json :=
  .object [("table", .string "Cities"),
    ("columns", .array [.object [("expr", .object [("column", .string "Id")])],
      .object [("expr", .object [("column", .string "Name")]), ("alias", .string "City")]]),
    ("group_by", .array [.object [("column", .string "Id")], .object [("column", .string "Id")]]),
    ("max_rows", .integer 10)]

/-- The document of a query for the shops in these cities. -/
def Json.shopsInLargeCities : Json :=
  .object [("table", .string "Shops"),
    ("columns", .array [.object [("expr", .object [("column", .string "Name")])]]),
    ("filter", .object [("in_subquery", .object [
      ("expr", .object [("column", .string "City")]), ("subquery", largeCities)])])]

/-- The aliases of the result columns, in their order. -/
def QueryOf.labels (q : Select) : List String := q.columns.items.map NamedExpr.label

/-- The steps that ask for all but what another query returns. -/
def Draft.allBut (q : Select) : List Draft.Step :=
  [.withNamed ⟨.column ⟨["Name"]⟩, "Shop"⟩, .withFilter (.not (.inSubquery (.column ⟨["Name"]⟩) q))]

/-- A query is read with another one within it, and a third one is built around the two. -/
theorem QueryOf.invariants_shops :
    ∃ (q s : Select) (d : Draft), Select.ofJson (.ofJson Json.shopsInLargeCities) = .ok q ∧
      s.Within q ∧ s.labels = ["Id", "City"] ∧ Draft.built "Shops" (Draft.allBut q) = .ok d ∧
      d.query.labels = ["Shop"] ∧ d.query.WellFormed ∧ s.WellFormed := by
  have nested : (Select.ofJson (.ofJson Json.shopsInLargeCities)).toOption.map
      (fun q => q.subqueries.map labels) = some [["Id", "City"]] := by
    decide +kernel
  obtain ⟨sound, ordered, -, -⟩ := QueryOf.invariants
  cases read : Select.ofJson (.ofJson Json.shopsInLargeCities) with
  | error fault =>
    rw [read] at nested
    cases nested
  | ok q =>
    rw [read] at nested
    obtain ⟨s, single, labelled⟩ := List.map_eq_singleton_iff.mp (Option.some.inj nested)
    have within : s.Within q := .deeper (single ▸ List.mem_singleton_self s) .self
    obtain ⟨d, made⟩ : ∃ d, Draft.built "Shops" (Draft.allBut q) = .ok d := by
      rw [Draft.built, Draft.start_eq_ok.mpr ⟨by decide +kernel, rfl⟩]
      exact ⟨_, rfl⟩
    have around : d.query.Made := by
      refine .built made ?_
      rw [Draft.allBut, List.forall_mem_cons, List.forall_mem_singleton]
      constructor
      · rintro f ⟨⟩
      · rintro f ⟨⟩ r asked
        rw [List.mem_singleton.mp asked]
        exact .read read
    refine ⟨q, s, d, rfl, within, labelled, made, ?_, sound _ around _ .self, ?_⟩
    · rw [labels, ordered _ _ d made]
      rfl
    · exact sound q (.read read) s within

end SqlScribe

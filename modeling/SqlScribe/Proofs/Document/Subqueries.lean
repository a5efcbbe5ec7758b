import SqlScribe.Document.Select
import SqlScribe.Proofs.Document.Contents
import SqlScribe.Proofs.Query.Subqueries

/-!
# Queries that are read from documents

A query is read by the steps that build it, and the queries within it are read in the same way from
documents within its own. The result columns are those of its document, in their order.
-/

namespace SqlScribe

open Json

namespace QueryParts

/-- The steps in which a query is built from the members of its document. -/
def steps (p : QueryParts) : List Draft.Step :=
  (p.tableAlias.map Draft.Step.withAlias).toList ++ p.columns.map Draft.Step.withNamed ++
    (p.filter.map Draft.Step.withFilter).toList ++ p.groupBy.map Draft.Step.withGroupBy ++
    (if p.inferGroupBy then [Draft.Step.inferGroupBy] else []) ++
    (p.having.map Draft.Step.withHaving).toList ++ (p.order.map Draft.Step.withOrder).toList ++
    [Draft.Step.withMaxRows p.maxRows] ++ if p.distinct then [Draft.Step.withDistinct] else []

/-- A step is taken if there is something to take it with. -/
theorem foldlM_toList {α : Type} (step : α → Draft.Step) (o : Option α) (d : Draft) :
    (o.map step).toList.foldlM Draft.perform d = o.elim (.ok d) fun x => d.perform (step x) := by
  cases o with
  | none => rfl
  | some x => exact bind_pure (d.perform (step x))

/-- A step is taken if it is asked for. -/
theorem foldlM_ite (step : Draft.Step) (b : Bool) (d : Draft) :
    (if b then [step] else []).foldlM Draft.perform d = if b then d.perform step else .ok d := by
  cases b
  · rfl
  · exact bind_pure (d.perform step)

/-- A query is built as its steps do it. -/
theorem build_eq (p : QueryParts) :
    p.build = do return (← Draft.built p.table p.steps).query := by
  have named (d : Draft) : (p.columns.map .withNamed).foldlM Draft.perform d =
      p.columns.foldlM Draft.withNamed d := List.foldlM_map
  have grouped (d : Draft) : (p.groupBy.map .withGroupBy).foldlM Draft.perform d =
      .ok (p.groupBy.foldl Draft.withGroupBy d) :=
    List.foldlM_map.trans (List.foldlM_pure (m := Except Fault))
  have capped (d : Draft) : [.withMaxRows p.maxRows].foldlM Draft.perform d =
      d.withMaxRows p.maxRows := bind_pure _
  simp only [Draft.built, steps, List.foldlM_append, foldlM_toList, foldlM_ite, named, grouped,
    capped, bind_assoc]
  -- What is left out or asked for decides which of the steps are there.
  unfold build
  cases p.tableAlias <;> cases p.filter <;> cases p.inferGroupBy <;> cases p.having <;>
    cases p.order <;> cases p.distinct <;> rfl

theorem exists_run {p : QueryParts} {q : Select} (made : p.build = .ok q) :
    ∃ d, Draft.built p.table p.steps = .ok d ∧ d.query = q := by
  rw [build_eq] at made
  obtain ⟨d, run, same⟩ := bind_eq_ok_iff.mp made
  cases same
  exact ⟨d, run, rfl⟩

theorem columns_steps (p : QueryParts) : p.steps.filterMap Draft.Step.column? = p.columns := by
  have optional {β : Type} (step : β → Draft.Step) (silent : ∀ x, (step x).column? = none)
      (o : Option β) : (o.map step).toList.filterMap Draft.Step.column? = [] := by
    cases o with
    | none => rfl
    | some x => simp [silent]
  have flag (step : Draft.Step) (silent : step.column? = none) (b : Bool) :
      (if b then [step] else []).filterMap Draft.Step.column? = [] := by
    cases b <;> simp [silent]
  have named : (p.columns.map .withNamed).filterMap Draft.Step.column? = p.columns :=
    List.filterMap_map.trans List.filterMap_some
  have grouped : (p.groupBy.map .withGroupBy).filterMap Draft.Step.column? = [] := by
    simp [Draft.Step.column?]
  have capped : [.withMaxRows p.maxRows].filterMap Draft.Step.column? = [] := rfl
  simp only [steps, List.filterMap_append, optional .withAlias fun _ => rfl, named,
    optional .withFilter fun _ => rfl, grouped, flag .inferGroupBy rfl,
    optional .withHaving fun _ => rfl, optional .withOrder fun _ => rfl, capped,
    flag .withDistinct rfl, List.nil_append, List.append_nil]

theorem condition_of_mem_steps {p : QueryParts} {step : Draft.Step} (member : step ∈ p.steps)
    {f : Filter} (adds : step.condition? = some f) : p.filter = some f ∨ p.having = some f := by
  cases step with
  | withFilter g =>
    cases adds
    exact .inl (by simpa [steps] using member)
  | withHaving g =>
    cases adds
    exact .inr (by simpa [steps] using member)
  | _ => cases adds

end QueryParts

/-- The names of the members of a query's document. -/
def Select.memberNames : List String :=
  ["table", "alias", "columns", "filter", "group_by", "infer_group_by", "having", "order",
    "max_rows", "distinct"]

/-- The documents of the result columns of a query's document, in their order. -/
def Select.columnDocuments (doc : Source) : List Source :=
  ((doc.member? memberNames "columns").map Source.items).getD []

/-- What a query has been read from: its parts have been read from within its document. -/
theorem Select.parts_of_readLevels {fuel : Nat} {doc : Source} {q : Select}
    (read : Select.readLevels (fuel + 1) doc = .ok q) :
    ∃ parts : QueryParts, parts.build = .ok q ∧
      List.Forall₂ (fun item n => NamedExpr.ofJson item = .ok n) (columnDocuments doc)
        parts.columns ∧
      ∀ f, parts.filter = some f ∨ parts.having = some f →
        ∃ inner, inner.PartOf doc ∧ Filter.readLevels fuel inner = .ok f := by
  rw [Select.readLevels] at read
  obtain ⟨members, opened, read⟩ := bind_eq_ok_iff.mp read
  obtain ⟨parts, placed, built⟩ := bind_eq_ok_iff.mp read
  have outcome := Placed.outcome_of_within placed
  simp only [Placed.seq_eq_ok, Placed.map_eq_ok] at outcome
  obtain ⟨_, _, ⟨_, _, ⟨_, _, ⟨_, having, ⟨_, _, ⟨_, _, ⟨_, filter, ⟨_, columns, ⟨_, _, ⟨_, -, rfl⟩,
    -, rfl⟩, listed, rfl⟩, filtered, rfl⟩, -, rfl⟩, -, rfl⟩, grouped, rfl⟩, -, rfl⟩, -, rfl⟩,
    -, rfl⟩ := outcome
  refine ⟨_, inDocument_eq_ok.mp built, ?_, ?_⟩
  · have found : (members.called "columns").head?.map Member.content =
        doc.member? memberNames "columns" := member?_of_called opened (by decide)
    rw [columnDocuments, ← found]
    obtain ⟨absent, rfl⟩ | ⟨m, single, made⟩ := orDefault_eq_ok.mp listed
    · rw [absent]
      exact .nil
    · rw [single]
      exact (readList_eq_ok.mp made).2
  · have inside {name : String} {f : Filter} (known : name ∈ memberNames)
        (condition : (orNone members name (Filter.readLevels fuel)).outcome = .ok (some f)) :
        ∃ inner, inner.PartOf doc ∧ Filter.readLevels fuel inner = .ok f := by
      obtain ⟨m, single, made⟩ := read_of_orNone condition
      exact ⟨m.content, partOf_of_called opened known single, made⟩
    rintro f (rfl | rfl)
    · exact inside (by decide) filtered
    · exact inside (by decide) grouped

/-- A query in a condition that has been read has been read from within its document. -/
theorem Filter.exists_document {fuel : Nat} {doc : Source} {f : Filter}
    (read : Filter.readLevels fuel doc = .ok f) {s : Select} (member : s ∈ f.subqueries) :
    ∃ levels inner, inner.PartOf doc ∧ Select.readLevels levels inner = .ok s := by
  induction fuel generalizing doc f with
  | zero => cases read
  | succ fuel ih =>
    have parts {body : Source} {fs : List Filter}
        (made : readList (Filter.readLevels fuel) body = .ok fs) (among : s ∈ subqueriesOf fs) :
        ∃ levels inner, inner.PartOf body ∧ Select.readLevels levels inner = .ok s := by
      rw [subqueriesOf_eq_flatMap] at among
      obtain ⟨g, listed, inside⟩ := List.mem_flatMap.mp among
      obtain ⟨item, among, read⟩ := read_of_mem_readList made listed
      obtain ⟨levels, inner, deep, found⟩ := ih read inside
      exact ⟨levels, inner, deep.trans among, found⟩
    have outside {body : Source} (within : body.PartOf doc) :
        (∃ levels inner, inner.PartOf body ∧ Select.readLevels levels inner = .ok s) →
          ∃ levels inner, inner.PartOf doc ∧ Select.readLevels levels inner = .ok s := by
      rintro ⟨levels, inner, deep, found⟩
      exact ⟨levels, inner, deep.trans within, found⟩
    rw [Filter.readLevels] at read
    obtain ⟨kind, body, within, made⟩ := read_of_readTagged read
    apply outside within
    -- Only membership, conjunction, disjunction and negation hold further queries.
    split at made
    case h_1 =>
      obtain ⟨members, -, made⟩ := read_of_record made
      simp only [Placed.seq_eq_ok, Placed.map_eq_ok] at made
      obtain ⟨_, _, ⟨_, _, ⟨_, _, ⟨_, -, rfl⟩, -, rfl⟩, -, rfl⟩, -, rfl⟩ := made
      cases member
    case h_2 | h_3 | h_4 | h_5 =>
      obtain ⟨members, -, made⟩ := read_of_record made
      simp only [Placed.seq_eq_ok, Placed.map_eq_ok] at made
      obtain ⟨_, _, ⟨_, -, rfl⟩, -, rfl⟩ := made
      cases member
    case h_6 =>
      obtain ⟨members, opened, made⟩ := read_of_record made
      simp only [Placed.seq_eq_ok, Placed.map_eq_ok] at made
      obtain ⟨_, q, ⟨_, -, rfl⟩, asked, rfl⟩ := made
      obtain ⟨m, single, found⟩ := required_eq_ok.mp asked
      rw [List.mem_singleton.mp member]
      exact ⟨fuel, m.content, partOf_of_called opened (by decide) single, found⟩
    case h_7 =>
      obtain ⟨members, -, made⟩ := read_of_record made
      simp only [Placed.seq_eq_ok, Placed.map_eq_ok] at made
      obtain ⟨_, _, ⟨_, _, ⟨_, -, rfl⟩, -, rfl⟩, -, rfl⟩ := made
      cases member
    case h_8 =>
      obtain ⟨b, -, same⟩ := bind_eq_ok_iff.mp made
      cases same
      cases member
    case h_9 | h_10 =>
      obtain ⟨fs, listed, same⟩ := bind_eq_ok_iff.mp made
      cases same
      exact parts listed member
    case h_11 =>
      obtain ⟨g, denied, same⟩ := bind_eq_ok_iff.mp made
      cases same
      exact ih denied member
    case h_12 => cases made

/-- A query within one that has been read has been read from within its document. -/
theorem Select.exists_document {fuel : Nat} {doc : Source} {q : Select}
    (read : Select.readLevels fuel doc = .ok q) {s : Select} (inside : s.Within q) :
    ∃ levels inner, inner.PartOf doc ∧ Select.readLevels levels inner = .ok s := by
  induction inside generalizing fuel doc with
  | self => exact ⟨fuel, doc, .self, read⟩
  | deeper member _ ih =>
    cases fuel with
    | zero => cases read
    | succ fuel =>
      obtain ⟨parts, built, -, conditions⟩ := parts_of_readLevels read
      obtain ⟨d, run, rfl⟩ := QueryParts.exists_run built
      obtain ⟨step, among, f, adds, asked⟩ := Draft.exists_condition_of_built run member
      obtain ⟨body, within, condition⟩ :=
        conditions f (QueryParts.condition_of_mem_steps among adds)
      obtain ⟨levels, inner, part, found⟩ := Filter.exists_document condition asked
      obtain ⟨levels, deeper, deep, found⟩ := ih found
      exact ⟨levels, deeper, deep.trans (part.trans within), found⟩

end SqlScribe

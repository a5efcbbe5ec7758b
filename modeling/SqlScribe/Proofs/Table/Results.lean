import SqlScribe.Proofs.Groups
import SqlScribe.Proofs.Newcomers
import SqlScribe.Proofs.Table.Keys

/-!
# Results of queries

A query gives the rows for which its condition is true, in the order of their sort keys and, where
these tie, in the order of the table. Each row is projected, then repetitions are left out, and then
the first rows are taken.
-/

namespace SqlScribe

open SqlScribe.Text

namespace Row

/-- The rows that equal no row in front of them. -/
def firsts (rows : List Row) : List Row :=
  (rows.zipIdx.filter fun a => !(rows.take a.2).any (equals · a.1)).map (·.1)

theorem equals_trans {r s t : Row} (first : equals r s = true) (second : equals s t = true) :
    equals r t = true := by
  induction r generalizing s t with
  | nil =>
    cases s with
    | nil => exact second
    | cons => cases first
  | cons u us ih =>
    cases s with
    | nil => cases first
    | cons v vs =>
      cases t with
      | nil => cases second
      | cons w ws =>
        simp only [equals, Bool.and_eq_true] at *
        exact ⟨Value.equals_trans first.1 second.1, ih first.2 second.2⟩

theorem distinct_eq_firsts (rows : List Row) : distinct rows = firsts rows := by
  have chained : ∀ r s t, equals r s = true → equals s t = true → equals r t = true :=
    fun _ _ _ => equals_trans
  exact foldl_taken chained [] rows

/-- The first rows up to a cap; a cap of zero rows is none. -/
def capped (cap : Nat) (rows : List Row) : List Row := if cap = 0 then rows else rows.take cap

end Row

/-- What a row is sorted by under one term: the value of the term, or that of the substitute where
it is NULL. -/
inductive OrderTerm.Yields (t : Table) (row : Row) (term : OrderTerm) : Value → Prop
  | value {v : Value} : t.eval row term.expr = .ok v → v ≠ .null ∨ term.substitute = none →
    Yields t row term v
  | substitute {e : Expr} {v : Value} : t.eval row term.expr = .ok .null →
    term.substitute = some e → t.eval row e = .ok v → Yields t row term v

namespace Table

variable {t : Table} {q : Select} {row : Row} {types : List ColumnType}
  {verdict : Row → Option Bool} {key : Row → SortKey} {result : Row → Row}

/-- What the condition of a query says about a row; without a condition every row is taken. -/
def ruling (t : Table) (q : Select) (row : Row) : Except Fault (Option Bool) :=
  match q.filter with
  | some f => t.test row f
  | none => .ok (some true)

/-- The names of the result columns. -/
def header (t : Table) (q : Select) : List String :=
  if q.columns.isEmpty then t.columns.map (·.name) else q.columns.items.map (·.label)

/-- The query reads this table without aggregation, and everything that it asks for can be
evaluated: the condition over every row, and over those for which it is true the sort keys, of one
type for each term, and the projection. -/
structure Answers (t : Table) (q : Select) (types : List ColumnType)
    (verdict : Row → Option Bool) (key : Row → SortKey) (result : Row → Row) : Prop where
  reads : sameName q.table t.name = true
  plain : q.columns.aggregates = false ∧ q.groupBy = [] ∧ q.having = none
  tested : ∀ row ∈ t.rows, t.ruling q row = .ok (verdict row)
  terms : types.length = (q.order.getD []).length
  keyed : ∀ row ∈ t.rows, verdict row = some true →
    List.Forall₂ (fun term v => term.Yields t row v) (q.order.getD []) (key row)
  typed : ∀ row ∈ t.rows, verdict row = some true → (key row).OfTypes types
  comparable : ∀ ty ∈ types, ty ≠ .unknown ∧ ty ≠ .float
  projected : ∀ row ∈ t.rows, verdict row = some true → t.project q row = .ok (result row)

theorem sortKey_eq {order : Order} {values : SortKey}
    (h : List.Forall₂ (fun term v => OrderTerm.Yields t row term v) order values) :
    t.sortKey row order = .ok values := by
  refine mapM_eq_ok_iff.mpr (h.imp fun term v yields => ?_)
  cases yields with
  | value evaluated kept =>
    cases substitute : term.substitute with
    | none => simp [evaluated, bind, Except.bind, pure, Except.pure]
    | some e =>
      have something : v.isNull = false := by
        rw [substitute] at kept
        cases v with
        | null => simp at kept
        | _ => rfl
      simp [evaluated, something, bind, Except.bind, pure, Except.pure]
  | substitute nothing given evaluated =>
    simp [nothing, given, evaluated, bind, Except.bind, Value.isNull]

theorem ordering_getD (q : Select) : q.ordering?.getD [] = q.order.getD [] := by
  rw [QueryOf.ordering?]
  cases q.order with
  | none => rfl
  | some order => cases order <;> rfl

theorem matching_cons (t : Table) (q : Select) (row : Row) (rest : List Row) :
    t.matching q (row :: rest) = t.ruling q row >>= fun said =>
      if said == some true then
        (do
          let values ← t.sortKey row (q.ordering?.getD [])
          return (values, row) :: (← t.matching q rest))
      else t.matching q rest := by
  rw [ruling, matching]
  cases q.filter <;> rfl

theorem matching_eq {rows : List Row}
    (tested : ∀ row ∈ rows, t.ruling q row = .ok (verdict row))
    (keyed : ∀ row ∈ rows, verdict row = some true →
      List.Forall₂ (fun term v => OrderTerm.Yields t row term v) (q.order.getD []) (key row)) :
    t.matching q rows =
      .ok ((rows.filter fun row => verdict row == some true).map fun row => (key row, row)) := by
  induction rows with
  | nil => rfl
  | cons row rest ih =>
    obtain ⟨first, others⟩ := List.forall_mem_cons.mp tested
    obtain ⟨here, later⟩ := List.forall_mem_cons.mp keyed
    rw [matching_cons, first, ih others later, ordering_getD]
    by_cases taken : verdict row = some true
    · simp [taken, sortKey_eq (here taken), bind, Except.bind, pure, Except.pure]
    · simp [taken, bind, Except.bind]

/-- The directions of the terms that a query is sorted by. -/
def directions (q : Select) : List Direction := (q.order.getD []).map (·.direction)

/-- The rows for which the condition is true, with their places, in the order of the query. -/
def arrangement (t : Table) (q : Select) (verdict : Row → Option Bool) (key : Row → SortKey) :
    List (Row × Nat) :=
  stableSort (fun a b => SortKey.compare (directions q) (key a.1) (key b.1))
    (t.rows.zipIdx.filter fun a => verdict a.1 == some true)

theorem arrangement_perm (t : Table) (q : Select) (verdict : Row → Option Bool)
    (key : Row → SortKey) :
    (arrangement t q verdict key).Perm (t.rows.zipIdx.filter fun a => verdict a.1 == some true) :=
  stableSort_perm _ _

theorem pairwise_zipIdx (rows : List Row) : rows.zipIdx.Pairwise fun a b => a.2 < b.2 := by
  have places := List.pairwise_lt_range' (s := 0) (n := rows.length)
  rw [← List.zipIdx_map_snd 0 rows] at places
  exact List.pairwise_map.mp places

theorem mem_of_mem_kept {a : Row × Nat}
    (member : a ∈ t.rows.zipIdx.filter fun a => verdict a.1 == some true) :
    a.1 ∈ t.rows ∧ verdict a.1 = some true := by
  obtain ⟨placed, taken⟩ := List.mem_filter.mp member
  exact ⟨List.fst_mem_of_mem_zipIdx placed, eq_of_beq taken⟩

/-- To sort the rows with their keys is to sort their places. -/
theorem sorted_eq (t : Table) (q : Select) (verdict : Row → Option Bool) (key : Row → SortKey) :
    stableSort (fun a b => SortKey.compare (directions q) a.1 b.1)
        ((t.rows.filter fun row => verdict row == some true).map fun row => (key row, row)) =
      (arrangement t q verdict key).map fun a => (key a.1, a.1) := by
  have placed : (t.rows.filter fun row => verdict row == some true) =
      (t.rows.zipIdx.filter fun a => verdict a.1 == some true).map (·.1) := by
    rw [← List.zipIdx_map_fst 0 t.rows, List.filter_map, List.zipIdx_map_fst]
    rfl
  rw [placed, List.map_map, stableSort_map]
  rfl

namespace Answers

variable (h : Answers t q types verdict key result)
include h

theorem checkQuery : t.checkQuery q = .ok () := by
  obtain ⟨aggregates, groups, having⟩ := h.plain
  simp [Table.checkQuery, h.reads, aggregates, groups, having]

theorem arrangement_pairwise :
    (arrangement t q verdict key).Pairwise fun a b =>
      SortKey.Before (directions q) (key a.1) (key b.1) ∨
        (key a.1).Ties (key b.1) ∧ a.2 < b.2 := by
  have one : (directions q).length = types.length := by
    rw [directions, List.length_map, h.terms]
  have typed {a : Row × Nat} (member : a ∈ t.rows.zipIdx.filter fun a => verdict a.1 == some true) :
      (key a.1).OfTypes types :=
    h.typed a.1 (mem_of_mem_kept member).1 (mem_of_mem_kept member).2
  have preorder := (SortKey.preordersOn one h.comparable).comap (fun a : Row × Nat => key a.1) id
  have sorted := stableSort_inOrder preorder (fun a => typed)
    ((pairwise_zipIdx t.rows).filter fun a => verdict a.1 == some true)
  refine sorted.imp_of_mem fun {a b} left right ordered => ?_
  have left := typed ((stableSort_perm _ _).mem_iff.mp left)
  have right := typed ((stableSort_perm _ _).mem_iff.mp right)
  obtain less | ⟨tie, first⟩ := ordered
  · exact .inl (SortKey.before_of_compare one h.comparable left right less)
  · exact .inr ⟨SortKey.ties_of_compare one h.comparable left right tie, first⟩

theorem projected_eq :
    ((arrangement t q verdict key).map fun a => (key a.1, a.1)).mapM (fun a => t.project q a.2) =
      .ok ((arrangement t q verdict key).map fun a => result a.1) := by
  rw [mapM_eq_ok_iff, List.forall₂_map_left_iff, List.forall₂_map_right_iff, List.forall₂_same]
  intro a member
  obtain ⟨stored, taken⟩ := mem_of_mem_kept ((arrangement_perm t q verdict key).mem_iff.mp member)
  exact h.projected a.1 stored taken

theorem select_eq :
    t.select q = .ok ⟨t.header q, Row.capped q.maxRows
      (if q.distinct then Row.firsts ((arrangement t q verdict key).map fun a => result a.1)
        else (arrangement t q verdict key).map fun a => result a.1)⟩ := by
  have found := matching_eq h.tested h.keyed
  have sorted := sorted_eq t q verdict key
  rw [directions, ← ordering_getD] at sorted
  rw [select, h.checkQuery, found]
  simp only [bind, Except.bind, pure, Except.pure, sorted, h.projected_eq, header, Row.capped,
    Row.distinct_eq_firsts]
  cases q.maxRows <;> rfl

end Answers

/-- A query without aggregation that can be evaluated is answered with the rows for which its
condition is true, each at one place: sorted by the terms one after the other, every term in its
direction, and where no term decides, in the order of the table. They are projected; then, if asked
for, the first occurrence of each row is kept; then, if there is a cap, as many of the first rows as
it says. -/
theorem select_of_answers (t : Table) (q : Select) {types : List ColumnType}
    {verdict : Row → Option Bool} {key : Row → SortKey} {result : Row → Row}
    (h : Answers t q types verdict key result) :
    ∃ places : List (Row × Nat),
      places.Perm (t.rows.zipIdx.filter fun a => verdict a.1 == some true) ∧
      places.Pairwise (fun a b =>
        SortKey.Before (directions q) (key a.1) (key b.1) ∨
          (key a.1).Ties (key b.1) ∧ a.2 < b.2) ∧
      ∀ distinct cap, t.select { q with distinct := distinct, maxRows := cap } =
        .ok ⟨t.header q, Row.capped cap
          (if distinct then Row.firsts (places.map fun a => result a.1)
            else places.map fun a => result a.1)⟩ := by
  refine ⟨arrangement t q verdict key, arrangement_perm t q verdict key, h.arrangement_pairwise, ?_⟩
  intro distinct cap
  have varied :
      Answers t { q with distinct := distinct, maxRows := cap } types verdict key result :=
    { h with }
  exact varied.select_eq

/-- A number and a name in each row; one number is missing. -/
def entrants : Table :=
  ⟨"Entrants", [.of "Rank" .integer, .of "Name" .string],
    [[.int 3, .string "Ann"], [.null, .string "Bob"], [.int 5, .string "Cid"],
      [.int 1, .string "Dan"], [.int 3, .string "Bob"], [.int 5, .string "Ann"]]⟩

/-- The names, those of the greatest numbers first; a missing number counts as three. -/
def placings : Select where
  table := "entrants"
  tableAlias := none
  columns := ⟨[⟨.column ⟨["Name"]⟩, "Name"⟩]⟩
  filter := some (.compare (.column ⟨["Rank"]⟩) .ne (.ofInt 1) false)
  groupBy := []
  having := none
  order := some [⟨.column ⟨["Rank"]⟩, .desc, some (.constant (.ofInt 3))⟩]
  maxRows := 0
  distinct := false

theorem answers_placings : Answers entrants placings [.integer]
    (fun row => some (row[0]? != some (.int 1)))
    (fun row => [if row[0]? = some .null then .int 3 else row[0]?.getD .null])
    (fun row => [row[1]?.getD .null]) where
  reads := by decide +kernel
  plain := ⟨by decide +kernel, rfl, rfl⟩
  tested := by
    simp only [entrants, List.forall_mem_cons]
    decide +kernel
  terms := rfl
  keyed := by
    simp only [entrants, List.forall_mem_cons]
    refine ⟨fun _ => ?_, fun _ => ?_, fun _ => ?_, fun taken => ?_, fun _ => ?_, fun _ => ?_,
      List.forall_mem_nil _⟩
    · exact .cons (.value (by decide +kernel) (.inl (by decide))) .nil
    · exact .cons (.substitute (by decide +kernel) rfl (by decide +kernel)) .nil
    · exact .cons (.value (by decide +kernel) (.inl (by decide))) .nil
    · cases taken
    · exact .cons (.value (by decide +kernel) (.inl (by decide))) .nil
    · exact .cons (.value (by decide +kernel) (.inl (by decide))) .nil
  typed := by
    simp only [entrants, List.forall_mem_cons]
    refine ⟨fun _ => ?_, fun _ => ?_, fun _ => ?_, fun _ => ?_, fun _ => ?_, fun _ => ?_,
      List.forall_mem_nil _⟩ <;> exact .cons rfl .nil
  comparable := by decide
  projected := by
    simp only [entrants, List.forall_mem_cons]
    decide +kernel

/-- Both of the names with the greatest number are taken, in the order of the table. -/
theorem select_placings :
    (entrants.select { placings with distinct := true, maxRows := 2 }).map ResultSet.rows =
      .ok [[.string "Cid"], [.string "Ann"]] ∧
    ∃ places : List (Row × Nat),
      places.Perm
        (entrants.rows.zipIdx.filter fun a => some (a.1[0]? != some (.int 1)) == some true) ∧
      Row.capped 2 (Row.firsts (places.map fun a => [a.1[1]?.getD .null])) =
        [[.string "Cid"], [.string "Ann"]] := by
  have rows :
      (entrants.select { placings with distinct := true, maxRows := 2 }).map ResultSet.rows =
        .ok [[.string "Cid"], [.string "Ann"]] := by decide +kernel
  refine ⟨rows, ?_⟩
  obtain ⟨places, perm, -, answer⟩ := select_of_answers entrants placings answers_placings
  rw [answer true 2] at rows
  exact ⟨places, perm, Except.ok.inj rows⟩

end Table

end SqlScribe

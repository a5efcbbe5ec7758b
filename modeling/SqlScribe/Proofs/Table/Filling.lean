import SqlScribe.Proofs.Statement.Script
import SqlScribe.Proofs.Table.Results

/-!
# Tables that are filled row by row

Every cell of a table that was made empty and then given rows belongs to the type of its column, and
every row of a result was made of a row of the table.
-/

namespace SqlScribe

/-- Every cell belongs to the type of its column. -/
def Row.Fits (columns : List Column) (row : Row) : Prop :=
  List.Forall₂ (fun v c => v.belongs c.type = true) row columns

/-- A converted row of the right width fits. -/
theorem Row.fits_of_convertRow {columns : List Column} {row held : Row}
    (width : row.length = columns.length) (converted : Table.convertRow columns row = .ok held) :
    held.Fits columns := by
  obtain ⟨length, cells⟩ := List.forall₂_iff_get.mp (mapM_eq_ok_iff.mp converted)
  rw [List.length_zip, width, min_self] at length
  refine List.forall₂_iff_get.mpr ⟨length.symm, fun i inside inside' => ?_⟩
  have cell := cells i (by rw [List.length_zip]; omega) inside
  rw [List.get_eq_getElem, List.getElem_zip] at cell
  exact Value.belongs_of_convert? (Value.convert_eq_ok.mp cell)

theorem Row.mem_of_mem_distinct {rows : List Row} {row : Row} (member : row ∈ distinct rows) :
    row ∈ rows := by
  rw [distinct_eq_firsts] at member
  exact (newcomers_sublist [] rows).subset member

namespace Table

variable {t t' : Table} {q : Select}

/-- A table that was made empty and then given rows. -/
inductive Filled : Table → Prop
  | create {name : String} {columns : List Column} {t : Table}
    (made : create name columns = .ok t) : Filled t
  | push {t t' : Table} {row : Row} (before : Filled t) (made : t.push row = .ok t') : Filled t'

theorem rows_of_create {name : String} {columns : List Column}
    (made : create name columns = .ok t) : t.rows = [] := by
  unfold create at made
  split at made
  · cases made
  · obtain ⟨_, -, made⟩ := bind_eq_ok_iff.mp made
    cases made
    rfl

/-- A row that is pushed is put at the end, converted, and fits. -/
theorem push_eq {row : Row} (made : t.push row = .ok t') :
    ∃ held : Row, held.Fits t.columns ∧ t' = { t with rows := t.rows ++ [held] } := by
  unfold push at made
  split at made
  · cases made
  · rename_i width
    obtain ⟨held, converted, made⟩ := bind_eq_ok_iff.mp made
    cases made
    exact ⟨held, Row.fits_of_convertRow (not_not.mp width) converted, rfl⟩

/-- All rows of a filled table fit. -/
theorem Filled.fits (h : t.Filled) : ∀ row ∈ t.rows, Row.Fits t.columns row := by
  induction h with
  | create made =>
    rw [rows_of_create made]
    exact List.forall_mem_nil _
  | push _ made ih =>
    obtain ⟨held, fits, rfl⟩ := push_eq made
    exact List.forall_mem_append.mpr ⟨ih, List.forall_mem_singleton.mpr fits⟩

/-- A row that is found is one of those looked through, and the condition is true for it. -/
theorem mem_of_mem_matching {rows : List Row} {found : List (SortKey × Row)}
    (all : t.matching q rows = .ok found) {a : SortKey × Row} (member : a ∈ found) :
    a.2 ∈ rows ∧ t.ruling q a.2 = .ok (some true) := by
  induction rows generalizing found with
  | nil =>
    cases all
    cases member
  | cons row rest ih =>
    rw [matching_cons] at all
    obtain ⟨said, ruled, all⟩ := bind_eq_ok_iff.mp all
    split at all
    · rename_i taken
      obtain ⟨key, -, all⟩ := bind_eq_ok_iff.mp all
      obtain ⟨others, later, all⟩ := bind_eq_ok_iff.mp all
      cases all
      obtain rfl | member := List.mem_cons.mp member
      · rw [ruled, eq_of_beq taken]
        exact ⟨List.mem_cons_self, rfl⟩
      · exact (ih later member).imp_left (List.mem_cons_of_mem row)
    · exact (ih all member).imp_left (List.mem_cons_of_mem row)

/-- A row of a result is the projection of a row for which the condition is true. -/
theorem exists_of_mem_select {result : ResultSet} (answered : t.select q = .ok result) {r : Row}
    (member : r ∈ result.rows) :
    ∃ row ∈ t.rows, t.ruling q row = .ok (some true) ∧ t.project q row = .ok r := by
  obtain ⟨_, -, answered⟩ := bind_eq_ok_iff.mp answered
  obtain ⟨found, matched, answered⟩ := bind_eq_ok_iff.mp answered
  obtain ⟨projected, made, answered⟩ := bind_eq_ok_iff.mp answered
  cases answered
  have kept : r ∈ if q.distinct then Row.distinct projected else projected := by
    dsimp only at member
    split at member
    · exact List.mem_of_mem_take member
    · exact member
  have inside : r ∈ projected := by
    split at kept
    · exact Row.mem_of_mem_distinct kept
    · exact kept
  obtain ⟨a, sorted, here⟩ := exists_of_mem_mapM made inside
  obtain ⟨stored, ruled⟩ := mem_of_mem_matching matched ((stableSort_perm _ _).mem_iff.mp sorted)
  exact ⟨a.2, stored, ruled, here⟩

end Table

end SqlScribe

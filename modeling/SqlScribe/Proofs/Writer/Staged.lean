import SqlScribe.Writer.Staging

/-!
# The index of the staged rows

While rows are staged only under keys that no staged row has, and are changed only in other cells,
the index says for every key exactly where its row stands.
-/

namespace SqlScribe

/-- Changes at places outside the key leave the key as it is. -/
theorem Row.key_mergeCells {search places : List Nat} (apart : ∀ i ∈ search, i ∉ places)
    (old new : Row) : Row.key search (Staging.mergeCells places old new) = Row.key search old := by
  apply List.map_congr_left
  intro i hi
  have kept : (Staging.mergeCells places old new)[i]? = old[i]? := by
    simp [Staging.mergeCells, List.getElem?_mapIdx, apart i hi]
  rw [kept]

namespace Staging

/-- The index is right: it leads from a key to the row of that key. -/
structure Indexed (search : List Nat) (q : Staging) : Prop where
  keyColumns : q.keyColumns = search
  lookup : ∀ k n, q.index.lookup k = some n ↔ q.rows[n]?.map (Row.key search) = some k

variable {search : List Nat} {q : Staging}

theorem indexed_empty (search : List Nat) : (empty search).Indexed search := by
  constructor
  · rfl
  · intro k n
    simp [empty]

theorem Indexed.clear (h : q.Indexed search) : q.clear.Indexed search := by
  unfold Staging.clear
  rw [h.keyColumns]
  exact indexed_empty search

/-- A row is found where a row of its key stands. -/
theorem Indexed.find?_eq_some (h : q.Indexed search) (keyed : search ≠ []) (row : Row) (n : Nat) :
    q.find? row = some n ↔ ∃ old, q.rows[n]? = some old ∧ old.key search = row.key search := by
  rw [find?, h.keyColumns, if_neg (by simpa using keyed), h.lookup, Option.map_eq_some_iff]

theorem Indexed.find?_eq_none (h : q.Indexed search) (keyed : search ≠ []) (row : Row) :
    q.find? row = none ↔ ∀ old ∈ q.rows, old.key search ≠ row.key search := by
  constructor
  · intro missing old member same
    obtain ⟨n, at_n⟩ := List.mem_iff_getElem?.mp member
    have found := (h.find?_eq_some keyed row n).mpr ⟨old, at_n, same⟩
    rw [missing] at found
    cases found
  · intro fresh
    cases found : q.find? row with
    | none => rfl
    | some n =>
      obtain ⟨old, at_n, same⟩ := (h.find?_eq_some keyed row n).mp found
      exact absurd same (fresh old (List.mem_of_getElem? at_n))

/-- No two staged rows have one key. -/
theorem Indexed.position_unique (h : q.Indexed search) {m n : Nat} {a b : Row}
    (ha : q.rows[m]? = some a) (hb : q.rows[n]? = some b) (same : a.key search = b.key search) :
    m = n := by
  have at_m := (h.lookup (b.key search) m).mpr (by simp [ha, same])
  have at_n := (h.lookup (b.key search) n).mpr (by simp [hb])
  rw [at_m] at at_n
  exact Option.some.inj at_n

theorem getElem?_push (q : Staging) (row : Row) (n : Nat) :
    (q.push row).rows[n]? = if n = q.rows.length then some row else q.rows[n]? := by
  have rows : (q.push row).rows = q.rows ++ [row] := rfl
  rw [rows]
  split
  · rename_i last
    rw [last, List.getElem?_concat_length]
  · rename_i other
    by_cases old : n < q.rows.length
    · rw [List.getElem?_append_left old]
    · rw [List.getElem?_eq_none (by simp; omega), List.getElem?_eq_none (by omega)]

theorem Indexed.push (h : q.Indexed search) (keyed : search ≠ []) {row : Row}
    (fresh : q.find? row = none) : (q.push row).Indexed search := by
  have others := (h.find?_eq_none keyed row).mp fresh
  have index : (q.push row).index = (row.key search, q.rows.length) :: q.index := by
    simp [Staging.push, h.keyColumns, keyed]
  constructor
  · exact h.keyColumns
  · intro k n
    rw [index, List.lookup_cons, getElem?_push]
    by_cases new : k = row.key search
    · subst new
      rw [beq_self_eq_true]
      dsimp only
      by_cases last : n = q.rows.length
      · simp [last]
      · rw [if_neg last, Option.map_eq_some_iff]
        constructor
        · rintro ⟨⟩
          contradiction
        · rintro ⟨old, at_n, same⟩
          exact absurd same (others old (List.mem_of_getElem? at_n))
    · rw [beq_false_of_ne new]
      dsimp only
      rw [h.lookup]
      by_cases last : n = q.rows.length
      · simp [last, Ne.symm new]
      · rw [if_neg last]

theorem Indexed.overwrite (h : q.Indexed search) {places : List Nat}
    (apart : ∀ i ∈ search, i ∉ places) (position : Nat) (row : Row) :
    (q.overwrite position places row).Indexed search := by
  constructor
  · exact h.keyColumns
  · intro k n
    have index : (q.overwrite position places row).index = q.index := rfl
    rw [index, h.lookup]
    simp only [Staging.overwrite, List.getElem?_modify]
    cases q.rows[n]? with
    | none => rfl
    | some old =>
      by_cases here : position = n
      · simp [here, Row.key_mergeCells apart]
      · simp [here]

end Staging

end SqlScribe

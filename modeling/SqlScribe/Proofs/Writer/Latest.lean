import SqlScribe.Proofs.Writer.Rows
import SqlScribe.Proofs.Writer.Staged

/-!
# The latest row of a key

A buffer of staged rows finds, under a key, the row that was staged last, however often rows of one
key are pushed, and whatever cells outside the key are changed in place. Keys are compared as values
are: amounts by number, and not-a-number with nothing.
-/

namespace SqlScribe

/-- The last place of a list at which an item stands. -/
def LastAt {α : Type} (items : List α) (item : α) (n : Nat) : Prop :=
  items[n]? = some item ∧ ∀ m, n < m → items[m]? ≠ some item

section LastAt

variable {α : Type} {items : List α} {item last : α} {n : Nat}

theorem lastAt_concat_self : LastAt (items ++ [item]) item n ↔ n = items.length := by
  constructor
  · rintro ⟨here, behind⟩
    obtain ⟨inside, -⟩ := List.getElem?_eq_some_iff.mp here
    rw [List.length_append, List.length_singleton] at inside
    by_contra other
    exact behind items.length (by omega) List.getElem?_concat_length
  · rintro rfl
    refine ⟨List.getElem?_concat_length, fun m later => ?_⟩
    rw [List.getElem?_eq_none (by rw [List.length_append, List.length_singleton]; omega)]
    exact Option.some_ne_none _ |>.symm

theorem lastAt_concat_of_ne (other : item ≠ last) :
    LastAt (items ++ [last]) item n ↔ LastAt items item n := by
  have same (m : Nat) : (items ++ [last])[m]? = some item ↔ items[m]? = some item := by
    rw [List.getElem?_append]
    split
    · rfl
    · rename_i outside
      rw [List.getElem?_eq_none (l := items) (by omega)]
      cases place : m - items.length with
      | zero => simp [other.symm]
      | succ k => simp
  simp only [LastAt, ne_eq, same]

theorem exists_lastAt (member : item ∈ items) : ∃ n, LastAt items item n := by
  classical
  induction items using List.reverseRecOn with
  | nil => cases member
  | append_singleton front last ih =>
    by_cases same : item = last
    · exact ⟨front.length, same ▸ lastAt_concat_self.mpr rfl⟩
    · obtain inside | now := List.mem_append.mp member
      · obtain ⟨n, found⟩ := ih inside
        exact ⟨n, (lastAt_concat_of_ne same).mpr found⟩
      · exact absurd (List.mem_singleton.mp now) same

end LastAt

namespace Staging

/-- The staged rows are handed over, and none is left waiting. -/
def take (q : Staging) : List Row × Staging := (q.rows, q.clear)

/-- What is done with a buffer: rows are added, cells outside the key are changed, and all rows are
handed over. -/
inductive Step (search : List Nat) : Staging → Staging → Prop
  | push (q : Staging) (row : Row) : Step search q (q.push row)
  | overwrite (q : Staging) (position : Nat) (places : List Nat) (row : Row)
      (apart : ∀ i ∈ search, i ∉ places) : Step search q (q.overwrite position places row)
  | take (q : Staging) : Step search q q.take.2

/-- The buffers that are reached from an empty one. -/
inductive Run (search : List Nat) : Staging → Prop
  | initial : Run search (empty search)
  | step {p q : Staging} : Run search p → Step search p q → Run search q

variable {search : List Nat} {p q : Staging}

/-- The index leads from a key to the last row of that key. -/
structure Current (search : List Nat) (q : Staging) : Prop where
  keyColumns : q.keyColumns = search
  lookup : search ≠ [] →
    ∀ k n, q.index.lookup k = some n ↔ LastAt (q.rows.map (Row.key search)) k n

theorem current_empty (search : List Nat) : (empty search).Current search :=
  ⟨rfl, fun _ k n => by simp [empty, LastAt]⟩

theorem Current.push (h : q.Current search) (row : Row) : (q.push row).Current search := by
  refine ⟨h.keyColumns, fun keyed k n => ?_⟩
  have index : (q.push row).index = (row.key search, q.rows.length) :: q.index := by
    simp [Staging.push, h.keyColumns, keyed]
  have keys : (q.push row).rows.map (Row.key search) =
      q.rows.map (Row.key search) ++ [row.key search] := List.map_append
  rw [index, keys, List.lookup_cons]
  by_cases same : k = row.key search
  · subst same
    rw [lastAt_concat_self, List.length_map]
    simp [eq_comm]
  · rw [lastAt_concat_of_ne same, beq_false_of_ne same]
    exact h.lookup keyed k n

/-- A change keeps what does not depend on the cells that it changes. -/
theorem map_overwrite {α : Type} {f : Row → α} {places : List Nat} {row : Row}
    (kept : ∀ old, f (mergeCells places old row) = f old) (q : Staging) (position : Nat) :
    (q.overwrite position places row).rows.map f = q.rows.map f := by
  apply List.ext_getElem?
  intro n
  rw [List.getElem?_map, List.getElem?_map, Staging.overwrite, List.getElem?_modify]
  cases q.rows[n]? with
  | none => rfl
  | some old => by_cases here : position = n <;> simp [here, kept]

theorem Current.overwrite (h : q.Current search) {places : List Nat}
    (apart : ∀ i ∈ search, i ∉ places) (position : Nat) (row : Row) :
    (q.overwrite position places row).Current search := by
  refine ⟨h.keyColumns, fun keyed k n => ?_⟩
  rw [map_overwrite fun old => Row.key_mergeCells apart old row]
  exact h.lookup keyed k n

theorem Current.clear (h : q.Current search) : q.clear = empty search := congrArg empty h.keyColumns

theorem Current.step (h : p.Current search) (step : Step search p q) : q.Current search := by
  cases step with
  | push row => exact h.push row
  | overwrite position places row apart => exact h.overwrite apart position row
  | take =>
    rw [Staging.take, h.clear]
    exact current_empty search

theorem Run.current (h : Run search q) : q.Current search := by
  induction h with
  | initial => exact current_empty search
  | step _ step ih => exact ih.step step

/-- At a position stands the row that was staged last with the key of a row. -/
structure LatestAt (search : List Nat) (q : Staging) (row : Row) (n : Nat) : Prop where
  same : ∃ old, q.rows[n]? = some old ∧ old.sameKey search row = true
  latest : ∀ m old, n < m → q.rows[m]? = some old → old.sameKey search row = false

/-- Rows are told apart by their keys, if the key at hand holds no not-a-number. -/
theorem lastAt_keys_iff {row : Row} (itself : row.sameKey search row = true) {n : Nat} :
    LastAt (q.rows.map (Row.key search)) (row.key search) n ↔ q.LatestAt search row n := by
  have place (m : Nat) : (q.rows.map (Row.key search))[m]? = some (row.key search) ↔
      ∃ old, q.rows[m]? = some old ∧ old.sameKey search row = true := by
    simp only [List.getElem?_map, Option.map_eq_some_iff, Row.sameKey_iff_of_sameKey_self itself]
  constructor
  · rintro ⟨here, behind⟩
    refine ⟨(place n).mp here, fun m old later at_m => ?_⟩
    exact Bool.eq_false_iff.mpr fun same => behind m later ((place m).mpr ⟨old, at_m, same⟩)
  · rintro ⟨here, behind⟩
    refine ⟨(place n).mpr here, fun m later found => ?_⟩
    obtain ⟨old, at_m, same⟩ := (place m).mp found
    exact Bool.false_ne_true ((behind m old later at_m).symm.trans same)

theorem Current.find?_eq_some (h : q.Current search) {row : Row}
    (itself : row.sameKey search row = true) (n : Nat) :
    q.find? row = some n ↔ search ≠ [] ∧ q.LatestAt search row n := by
  rw [find?, h.keyColumns]
  by_cases keyed : search = []
  · simp [keyed]
  · rw [if_neg (by simpa using keyed), h.lookup keyed, lastAt_keys_iff itself]
    simp [keyed]

theorem Current.find?_eq_none (h : q.Current search) {row : Row}
    (itself : row.sameKey search row = true) :
    q.find? row = none ↔ search = [] ∨ ∀ old ∈ q.rows, old.sameKey search row = false := by
  constructor
  · intro missing
    by_cases keyed : search = []
    · exact .inl keyed
    · refine .inr fun old member => Bool.eq_false_iff.mpr fun same => ?_
      have key : row.key search ∈ q.rows.map (Row.key search) :=
        List.mem_map.mpr ⟨old, member, (Row.sameKey_iff_of_sameKey_self itself).mp same⟩
      obtain ⟨n, found⟩ := exists_lastAt key
      have there := (h.find?_eq_some itself n).mpr ⟨keyed, (lastAt_keys_iff itself).mp found⟩
      exact Option.some_ne_none n (there.symm.trans missing)
  · intro absent
    rw [Option.eq_none_iff_forall_ne_some]
    intro n found
    obtain ⟨keyed, latest⟩ := (h.find?_eq_some itself n).mp found
    obtain ⟨old, at_n, same⟩ := latest.same
    obtain none | fresh := absent
    · exact keyed none
    · exact Bool.false_ne_true ((fresh old (List.mem_of_getElem? at_n)).symm.trans same)

/-- The cell of a staged row at a place. -/
def cellAt? (q : Staging) (n i : Nat) : Option Value := q.rows[n]?.bind fun row => row[i]?

theorem cellAt?_overwrite (q : Staging) (position : Nat) (places : List Nat) (row : Row)
    (n i : Nat) :
    (q.overwrite position places row).cellAt? n i =
      if n = position ∧ i ∈ places then (q.cellAt? n i).map fun v => row[i]?.getD v
      else q.cellAt? n i := by
  rw [cellAt?, cellAt?, Staging.overwrite, List.getElem?_modify]
  cases q.rows[n]? with
  | none => simp
  | some old =>
    by_cases here : position = n
    · by_cases listed : i ∈ places <;> simp [here, listed, mergeCells, List.getElem?_mapIdx]
    · simp [here, Ne.symm here]

/-- Whatever was done with a buffer, it finds the row that was staged last with the key of a row,
and nothing if there is none. A row that is added stands behind all others; a change keeps every
cell but the listed ones of one row; what is handed over are the rows as they stand, and what is
left is a new buffer. -/
theorem Run.find?_latest (h : Run search q) :
    (∀ row, row.sameKey search row = true →
      (∀ n, q.find? row = some n ↔ search ≠ [] ∧ q.LatestAt search row n) ∧
        (q.find? row = none ↔ search = [] ∨ ∀ old ∈ q.rows, old.sameKey search row = false)) ∧
      (∀ row, (q.push row).rows = q.rows ++ [row]) ∧
        (∀ position places new,
          (q.overwrite position places new).rows.map List.length = q.rows.map List.length ∧
            ∀ n i, (q.overwrite position places new).cellAt? n i =
              if n = position ∧ i ∈ places then (q.cellAt? n i).map fun v => new[i]?.getD v
              else q.cellAt? n i) ∧
          q.take = (q.rows, empty search) := by
  refine ⟨fun row itself => ?_, fun row => rfl, fun position places new => ?_, ?_⟩
  · exact ⟨h.current.find?_eq_some itself, h.current.find?_eq_none itself⟩
  · have width (old : Row) : (mergeCells places old new).length = old.length := List.length_mapIdx
    exact ⟨map_overwrite width q position, cellAt?_overwrite q position places new⟩
  · rw [Staging.take, h.current.clear]

/-- One amount staged at two scales, the later row with another name by now. -/
def amounts : Staging :=
  (((empty [0]).push [.money ((Decimal.of? false 150 2).get rfl), .string "A"]).push
    [.money ((Decimal.of? false 15 1).get rfl), .string "B"]).overwrite 1 [1]
      [.null, .string "C"]

theorem amounts_latest :
    Run [0] amounts ∧ amounts.find? [.money ((Decimal.of? false 1500 3).get rfl)] = some 1 ∧
      amounts.cellAt? 1 1 = some (.string "C") ∧ amounts.take.2 = empty [0] := by
  have run : Run [0] amounts :=
    .step (.step (.step .initial (.push _ _)) (.push _ _)) (.overwrite _ 1 [1] _ (by decide))
  obtain ⟨latest, -, -, handed⟩ := run.find?_latest
  have row := (latest [.money ((Decimal.of? false 1500 3).get rfl)] (by decide +kernel)).1 1
  refine ⟨run, row.mpr ⟨by decide, ⟨_, rfl, by decide +kernel⟩, fun m old later there => ?_⟩, ?_, ?_⟩
  · have inside := (List.getElem?_eq_some_iff.mp there).1
    have two : amounts.rows.length = 2 := rfl
    omega
  · rfl
  · rw [handed]

end Staging

end SqlScribe

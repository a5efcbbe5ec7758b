import SqlScribe.Proofs.Writer.IdealTable
import SqlScribe.Proofs.Writer.Staged

/-!
# Stored and staged rows

Between two writes, the stored rows followed by the staged ones are the table that is meant. No
staged row has the key of a stored one, so a written row changes either or is staged itself.
-/

namespace SqlScribe

namespace Row

variable {search : List Nat}

theorem map_replaced_of_others {table : List Row} {new : Row}
    (others : ∀ old ∈ table, old.sameKey search new = false) :
    (table.map fun old => if old.sameKey search new then old.replaced search new else old) =
      table := by
  rw [List.map_congr_left (g := id), List.map_id]
  intro old member
  simp [others old member]

/-- Rows of other keys in front are passed over. -/
theorem upsert_append_right {stored staged : List Row} {new : Row}
    (others : ∀ old ∈ stored, old.sameKey search new = false) :
    upsert search (stored ++ staged) new = stored ++ upsert search staged new := by
  have none_stored : stored.any (·.sameKey search new) = false := by
    simpa using others
  unfold upsert
  rw [List.any_append, none_stored, Bool.false_or, List.map_append,
    map_replaced_of_others others]
  split
  · rfl
  · rw [List.append_assoc]

/-- Rows of other keys behind are passed over once the row has its place in front of them. -/
theorem upsert_append_left {stored staged : List Row} {new : Row}
    (others : ∀ old ∈ staged, old.sameKey search new = false)
    (somewhere : ∃ old ∈ stored, old.sameKey search new = true) :
    upsert search (stored ++ staged) new =
      (stored.map fun old => if old.sameKey search new then old.replaced search new else old) ++
        staged := by
  have found : stored.any (·.sameKey search new) = true := by
    simpa using somewhere
  rw [upsert, List.any_append, found, Bool.true_or, if_pos rfl, List.map_append,
    map_replaced_of_others others]

theorem upsert_of_fresh {table : List Row} {new : Row}
    (others : ∀ old ∈ table, old.sameKey search new = false) :
    upsert search table new = table ++ [new] := by
  have none_found : table.any (·.sameKey search new) = false := by
    simpa using others
  rw [upsert, none_found, if_neg Bool.false_ne_true]

/-- Where one row only has the key, that row is replaced. -/
theorem upsert_of_unique {table : List Row} {old new : Row} {i : Nat} (here : table[i]? = some old)
    (same : old.sameKey search new = true)
    (unique : ∀ j other, table[j]? = some other → other.sameKey search new = true → j = i) :
    upsert search table new = table.modify i fun old => old.replaced search new := by
  have found : table.any (·.sameKey search new) = true :=
    List.any_eq_true.mpr ⟨old, List.mem_of_getElem? here, same⟩
  rw [upsert, found, if_pos rfl]
  apply List.ext_getElem?
  intro j
  rw [List.getElem?_map, List.getElem?_modify]
  cases at_j : table[j]? with
  | none => rfl
  | some other =>
    by_cases place : i = j
    · subst place
      rw [here] at at_j
      cases at_j
      simp [same]
    · have differs : other.sameKey search new = false :=
        Bool.eq_false_iff.mpr fun h => place (unique j other at_j h).symm
      simp [differs, place]

theorem mem_of_mem_modify {table : List Row} {i : Nat} {old row : Row} {f : Row → Row}
    (here : table[i]? = some old) (member : row ∈ table.modify i f) :
    row ∈ table ∨ row = f old := by
  obtain ⟨j, at_j⟩ := List.mem_iff_getElem?.mp member
  rw [List.getElem?_modify] at at_j
  obtain ⟨other, there, changed⟩ := Option.map_eq_some_iff.mp at_j
  by_cases place : i = j
  · subst place
    rw [here] at there
    cases there
    rw [if_pos rfl] at changed
    exact .inr changed.symm
  · rw [if_neg place] at changed
    cases changed
    exact .inl (List.mem_of_getElem? there)

end Row

namespace Session

theorem Fresh.holding_self {s : Session} (h : s.Fresh) :
    s.holding (.empty s.search) none s.summary = s := by
  rw [holding, ← h.staging, ← h.update]

end Session

namespace Session

/-- The stored and the staged rows together are the table that is meant. -/
structure Pending (s : Session) (q : Staging) (u : Option PreparedUpdate)
    (stored target : List Row) : Prop where
  indexed : q.Indexed s.search
  settled : ∀ row ∈ q.rows, s.Settled row
  update : ∀ p, u = some p → s.upsertUpdate = .ok p
  apart : ∀ old ∈ stored, ∀ new ∈ q.rows, old.sameKey s.search new = false
  total : stored ++ q.rows = target

namespace Pending

variable {s : Session} {q : Staging} {u : Option PreparedUpdate} {stored target : List Row}
  {new : Row}

theorem fresh (s : Session) (table : List Row) :
    s.Pending (.empty s.search) none table table where
  indexed := Staging.indexed_empty s.search
  settled row member := by cases member
  update p ready := by cases ready
  apart old _ new member := by cases member
  total := List.append_nil table

/-- The staged rows that a row is not found under have other keys. -/
theorem others_of_find? (h : s.Pending q u stored target) (keyed : s.Keyed) (exact : s.Settled new)
    (missing : q.find? new = none) : ∀ old ∈ q.rows, old.sameKey s.search new = false := by
  intro old member
  apply Bool.eq_false_iff.mpr
  intro same
  exact (h.indexed.find?_eq_none keyed.keyed new).mp missing old member
    ((Row.sameKey_iff exact.exact).mp same)

/-- The staged row that a row is found under is apart from the stored rows, so the row is too. -/
theorem apart_of_find? (h : s.Pending q u stored target) (keyed : s.Keyed) (exact : s.Settled new)
    {i : Nat} (found : q.find? new = some i) :
    ∀ row ∈ stored, row.sameKey s.search new = false := by
  obtain ⟨old, here, key⟩ := (h.indexed.find?_eq_some keyed.keyed new i).mp found
  have staged := List.mem_of_getElem? here
  intro row member
  have differs := h.apart row member old staged
  apply Bool.eq_false_iff.mpr
  intro same
  have := (Row.sameKey_iff exact.exact).mp same
  rw [(Row.sameKey_iff (h.settled old staged).exact).mpr (this.trans key.symm)] at differs
  cases differs

/-- A row that is found is merged into the staged row of its key. -/
theorem merge (h : s.Pending q u stored target) (keyed : s.Keyed) (settled : s.Settled new)
    {i : Nat} (found : q.find? new = some i) :
    s.Pending (q.overwrite i s.other new) u stored (Row.upsert s.search target new) := by
  have apart := h.apart_of_find? keyed settled found
  obtain ⟨old, here, key⟩ := (h.indexed.find?_eq_some keyed.keyed new i).mp found
  have before := List.mem_of_getElem? here
  have rows : (q.overwrite i s.other new).rows =
      q.rows.modify i fun old => old.replaced s.search new := by
    unfold Staging.overwrite
    rw [keyed.other, ← settled.width]
    simp only [Row.mergeCells_eq]
  have member_cases : ∀ row ∈ (q.overwrite i s.other new).rows,
      row ∈ q.rows ∨ row = old.replaced s.search new := by
    rw [rows]
    exact fun row => Row.mem_of_mem_modify here
  constructor
  · apply h.indexed.overwrite
    intro j member
    rw [keyed.other, Row.mem_otherPlaces]
    exact fun outside => outside.2 member
  · intro row member
    obtain staged | rfl := member_cases row member
    · exact h.settled row staged
    · exact (h.settled old before).replaced settled
  · exact h.update
  · intro row member other staged
    obtain staged | rfl := member_cases other staged
    · exact h.apart row member other staged
    · rw [Row.sameKey_replaced_right]
      exact h.apart row member old before
  · rw [← h.total, Row.upsert_append_right apart, rows]
    congr 1
    apply (Row.upsert_of_unique here ((Row.sameKey_iff settled.exact).mpr key) _).symm
    intro j other at_j same
    exact h.indexed.position_unique at_j here
      (((Row.sameKey_iff settled.exact).mp same).trans key.symm)

/-- A row of a stored key changes the stored rows of that key. -/
theorem change (h : s.Pending q u stored target) (keyed : s.Keyed) (settled : s.Settled new)
    (missing : q.find? new = none) (somewhere : ∃ old ∈ stored, old.sameKey s.search new = true) :
    s.Pending q u
      (stored.map fun old =>
        if old.sameKey s.search new then old.replaced s.search new else old)
      (Row.upsert s.search target new) := by
  constructor
  · exact h.indexed
  · exact h.settled
  · exact h.update
  · intro row member other staged
    obtain ⟨old, before, rfl⟩ := List.mem_map.mp member
    split
    · rw [Row.sameKey_replaced]
      exact h.apart old before other staged
    · exact h.apart old before other staged
  · rw [← h.total, Row.upsert_append_left (h.others_of_find? keyed settled missing) somewhere]

/-- A row of a key that is nowhere yet is staged. -/
theorem stage (h : s.Pending q u stored target) (keyed : s.Keyed) (settled : s.Settled new)
    (missing : q.find? new = none) (nowhere : ∀ old ∈ stored, old.sameKey s.search new = false) :
    s.Pending (q.push new) u stored (Row.upsert s.search target new) := by
  have rows : (q.push new).rows = q.rows ++ [new] := rfl
  have others := h.others_of_find? keyed settled missing
  constructor
  · exact h.indexed.push keyed.keyed missing
  · intro row member
    rw [rows, List.mem_append, List.mem_singleton] at member
    obtain before | rfl := member
    · exact h.settled row before
    · exact settled
  · exact h.update
  · intro row member other staged
    rw [rows, List.mem_append, List.mem_singleton] at staged
    obtain before | rfl := staged
    · exact h.apart row member other before
    · exact nowhere row member
  · rw [← h.total, Row.upsert_of_fresh, rows, List.append_assoc]
    intro old member
    obtain before | staged := List.mem_append.mp member
    · exact nowhere old before
    · exact others old staged

/-- A flush moves the staged rows to the stored ones. -/
theorem flush (h : s.Pending q u stored target) : s.Pending q.clear u target target where
  indexed := h.indexed.clear
  settled row member := by cases member
  update := h.update
  apart old _ new member := by cases member
  total := List.append_nil target

end Pending

end Session

end SqlScribe

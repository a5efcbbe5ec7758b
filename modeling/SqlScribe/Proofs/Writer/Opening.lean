import SqlScribe.Proofs.Writer.Rows

/-!
# Opened sessions

What holds of a session that was opened to insert or update rows.
-/

namespace SqlScribe.Session

open Text

theorem named_and_typed_of_validate {c : Column} (valid : c.validate = .ok ()) :
    isAllBlank c.name = false ∧ c.type ≠ .unknown := by
  unfold Column.validate at valid
  by_cases blank : isAllBlank c.name = true
  · rw [if_pos blank] at valid
    cases valid
  · rw [if_neg blank] at valid
    by_cases unknown : c.type = .unknown
    · rw [if_pos unknown] at valid
      cases valid
    · exact ⟨Bool.eq_false_iff.mpr blank, unknown⟩

/-- A column is accepted if it makes sense and no column before it has its name. -/
theorem of_checkColumns_cons {table : String} {seen rest : List Column} {first : Column}
    (h : checkColumns table seen (first :: rest) = .ok ()) :
    first.validate = .ok () ∧ (∀ other ∈ seen, sameName other.name first.name = false) ∧
      checkColumns table (seen ++ [first]) rest = .ok () := by
  rw [checkColumns] at h
  cases valid : first.validate with
  | error e =>
    rw [valid] at h
    cases h
  | ok _ =>
    rw [valid] at h
    by_cases twice : (seen.any fun other => sameName other.name first.name) = true
    · simp only [twice, if_true] at h
      cases h
    · simp only [twice] at h
      exact ⟨rfl, by simpa using twice, h⟩

theorem typed_of_checkColumns {table : String} {seen columns : List Column}
    (h : checkColumns table seen columns = .ok ()) : ∀ c ∈ columns, c.type ≠ .unknown := by
  induction columns generalizing seen with
  | nil => exact List.forall_mem_nil _
  | cons first rest ih =>
    obtain ⟨valid, -, others⟩ := of_checkColumns_cons h
    exact List.forall_mem_cons.mpr ⟨(named_and_typed_of_validate valid).2, ih others⟩

/-- Accepted columns have visible names, all of them different. -/
theorem names_of_checkColumns {table : String} {seen columns : List Column}
    (h : checkColumns table seen columns = .ok ()) :
    (∀ c ∈ columns, isAllBlank c.name = false ∧
      ∀ other ∈ seen, sameName other.name c.name = false) ∧
    columns.Pairwise fun a b => sameName a.name b.name = false := by
  induction columns generalizing seen with
  | nil => exact ⟨nofun, .nil⟩
  | cons first rest ih =>
    obtain ⟨valid, fresh, others⟩ := of_checkColumns_cons h
    obtain ⟨later, apart⟩ := ih others
    have visible := (named_and_typed_of_validate valid).1
    refine ⟨List.forall_mem_cons.mpr ⟨⟨visible, fresh⟩, fun c member => ⟨(later c member).1, ?_⟩⟩,
      .cons (fun c member => ?_) apart⟩
    · exact fun other inside => (later c member).2 other (List.mem_append_left _ inside)
    · exact (later c member).2 first (List.mem_append_right _ List.mem_cons_self)

theorem within_of_locate {table : String} {columns : List Column} {names : List String}
    {found places : List Nat} (h : locate table columns found names = .ok places)
    (within : ∀ i ∈ found, i < columns.length) : ∀ i ∈ places, i < columns.length := by
  induction names generalizing found with
  | nil =>
    cases h
    exact within
  | cons name rest ih =>
    unfold locate at h
    split at h
    · cases h
    · rename_i i place
      apply ih h
      intro j member
      split at member
      · exact within j member
      · cases List.mem_append.mp member with
        | inl old => exact within j old
        | inr new =>
          rw [List.mem_singleton.mp new]
          exact (List.findIdx?_eq_some_iff_findIdx_eq.mp place).1

/-- Names that are found have places. -/
theorem locate_ne_nil {table : String} {columns : List Column} {found places : List Nat}
    {names : List String} (h : locate table columns found names = .ok places)
    (something : found ≠ [] ∨ names ≠ []) : places ≠ [] := by
  induction names generalizing found with
  | nil =>
    cases h
    exact something.resolve_right (not_not_intro rfl)
  | cons name rest ih =>
    unfold locate at h
    split at h
    · cases h
    · rename_i i place
      refine ih h (.inl ?_)
      split
      · rename_i known
        exact List.ne_nil_of_mem (List.contains_iff_mem.mp known)
      · exact List.append_ne_nil_of_right_ne_nil _ (List.cons_ne_nil i [])

/-- The session can tell rows by their keys. -/
structure Keyed (s : Session) : Prop where
  mode : s.mode = .insertOrUpdate
  keyed : s.search ≠ []
  within : ∀ i ∈ s.search, i < s.columns.length
  other : s.other = Row.otherPlaces s.search s.columns.length
  typed : ∀ c ∈ s.columns, c.type ≠ .unknown
  batch : 1 ≤ s.batchSize

/-- The session has not written yet. -/
structure Fresh (s : Session) : Prop where
  staging : s.staging = .empty s.search
  update : s.update = none

/-- What has been checked of a session that is opened, and what it is. -/
theorem start_spec {d : Dialect} {table : String} {columns : List Column} {names : List String}
    {mode : WriteMode} {s : Session} (h : start d table columns names mode = .ok s) :
    ∃ search, checkColumns table [] columns = .ok () ∧
      locate table columns [] names = .ok search ∧ (mode ≠ .insert → search ≠ []) ∧
      s = {
        dialect := d, table, columns, mode, search
        other := Row.otherPlaces search columns.length
        batchSize := d.features.batchRows columns.length
        maxStaged := 10000
        staging := .empty search
        update := none
        summary := {} } := by
  simp only [start, bind, Except.bind, pure, Except.pure] at h
  split at h
  · cases h
  · split at h
    · cases h
    · cases checked : checkColumns table [] columns with
      | error e => simp [checked] at h
      | ok _ =>
        cases located : locate table columns [] names with
        | error e => simp [checked, located] at h
        | ok search =>
          simp only [checked, located] at h
          refine ⟨search, rfl, rfl, ?_⟩
          by_cases keyed : mode ≠ .insert
          · rw [if_pos keyed] at h
            split at h
            · cases h
            · rename_i nonempty
              split at h
              · cases h
              · exact ⟨fun _ => by simpa using nonempty, (Except.ok.inj h).symm⟩
          · rw [if_neg keyed] at h
            exact ⟨fun appends => absurd appends keyed, (Except.ok.inj h).symm⟩

theorem start_eq_ok {d : Dialect} {table : String} {columns : List Column} {names : List String}
    {mode : WriteMode} {s : Session} (h : start d table columns names mode = .ok s) :
    s.dialect = d ∧ s.table = table ∧ s.columns = columns ∧ s.mode = mode ∧ s.Fresh := by
  obtain ⟨search, -, -, -, rfl⟩ := start_spec h
  exact ⟨rfl, rfl, rfl, rfl, rfl, rfl⟩

theorem start_keyed {d : Dialect} {table : String} {columns : List Column} {names : List String}
    {s : Session} (h : start d table columns names .insertOrUpdate = .ok s) :
    s.Keyed ∧ s.Fresh ∧ s.dialect = d ∧ s.columns = columns := by
  obtain ⟨search, checked, located, keyed, rfl⟩ := start_spec h
  exact ⟨⟨rfl, keyed (by decide), within_of_locate located nofun, rfl,
    typed_of_checkColumns checked, Features.one_le_batchRows _ _⟩, ⟨rfl, rfl⟩, rfl, rfl⟩

theorem one_le_withBatchSize (s : Session) (rows : Nat) : 1 ≤ (s.withBatchSize rows).batchSize :=
  Nat.le_min.mpr ⟨Nat.le_max_right _ _, Features.one_le_batchRows _ _⟩

theorem Keyed.withLimits {s : Session} (h : s.Keyed) (rows staged : Nat) :
    ((s.withBatchSize rows).withMaxStaged staged).Keyed where
  mode := h.mode
  keyed := h.keyed
  within := h.within
  other := h.other
  typed := h.typed
  batch := one_le_withBatchSize s rows

theorem Fresh.withLimits {s : Session} (h : s.Fresh) (rows staged : Nat) :
    ((s.withBatchSize rows).withMaxStaged staged).Fresh := ⟨h.staging, h.update⟩

end SqlScribe.Session

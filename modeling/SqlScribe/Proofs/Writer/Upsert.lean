import SqlScribe.Proofs.Writer.Pending

/-!
# Insert-or-update sessions

Over an ideal table, a session that inserts or updates rows leaves what writing them one by one
would have left, wherever it is flushed.
-/

namespace SqlScribe

/-- What a session may be asked for before it finishes. -/
inductive Request
  | write (row : Row)
  | flush

/-- The rows that are to be written, in order. -/
def Request.rows : List Request → List Row
  | [] => []
  | write row :: rest => row :: rows rest
  | flush :: rest => rows rest

/-- Carries out requests and finishes; a fault ends the session. -/
def Backend.carryOut {σ : Type} (x : Backend σ) : List Request → Writing σ Summary
  | [] => x.finish
  | .write row :: rest => do
    discard (x.write row)
    x.carryOut rest
  | .flush :: rest => do
    discard x.flush
    x.carryOut rest

variable {σ α : Type}

namespace Session

/-- A step has ended well, with stored and staged rows that make up the table that is meant, or the
dialect has refused a statement. -/
def Reaches (s : Session) (written table : List Row) (rows : σ → List Row) (target : List Row)
    (r : Except Fault α) (s' : Session) (t' : σ) : Prop :=
  (∃ a q u m, r = .ok a ∧ s' = s.holding q u m ∧ s.Pending q u (rows t') target) ∨
  ∃ f, r = .error f ∧ s.Refuses written table f

variable {s : Session} {written table : List Row} {rows : σ → List Row} {target : List Row}

theorem Reaches.map {β : Type} {r : Except Fault α} {s' : Session} {t' : σ} (g : α → β)
    (h : s.Reaches written table rows target r s' t') :
    s.Reaches written table rows target (r.map g) s' t' := by
  obtain ⟨a, q, u, m, rfl, rest⟩ | ⟨f, rfl, refused⟩ := h
  · exact .inl ⟨g a, q, u, m, rfl, rest⟩
  · exact .inr ⟨f, rfl, refused⟩

end Session

open Session Writing

/-- An insert-or-update session that can compare keys, over an ideal table. -/
structure Upserting (s : Session) (x : Backend σ) (rows : σ → List Row) : Prop where
  keyed : s.Keyed
  exact : s.ExactKeys
  settles : s.dialect.Settles
  keeps : s.dialect.KeepsExact
  ideal : IdealTable s x rows

namespace Upserting

variable {s : Session} {x : Backend σ} {rows : σ → List Row}
  {q : Staging} {u : Option PreparedUpdate} {m : Summary}
  {target written table remaining : List Row} {t : σ}

/-- A flush leaves the table that is meant in the database alone. -/
theorem flush_spec (h : Upserting s x rows) (pending : s.Pending q u (rows t) target)
    (meant : s.Leaves written table remaining target) :
    Ensures x.flush (s.holding q u m) t fun r s' t' =>
      (∃ n q' m', r = .ok n ∧ s' = s.holding q' u m' ∧ s.Pending q' u (rows t') target ∧
        rows t' = target) ∨
      ∃ f, r = .error f ∧ s.Refuses written table f := by
  rw [Backend.ensures_flush]
  split
  · rename_i nothing
    have all : rows t = target := by
      rw [← pending.total, show q.rows = [] from nothing, List.append_nil]
    exact .inl ⟨0, q, m, rfl, rfl, pending, all⟩
  · change (x.load (s.holding q u m) q.rows).Ensures t _
    rw [Backend.load_holding]
    apply (h.ideal.load_appends q.rows pending.settled t).imp
    rintro r t' (⟨n, rfl, appended⟩ | ⟨f, rfl, refused⟩)
    · rw [pending.total] at appended
      refine .inl ⟨n, q.clear, _, rfl, rfl, ?_, appended⟩
      rw [appended]
      exact pending.flush
    · rw [← pending.total] at meant
      exact .inr ⟨f, rfl, .inserting remaining (rows t) q.rows meant refused⟩

theorem flush_reaches (h : Upserting s x rows) (pending : s.Pending q u (rows t) target)
    (meant : s.Leaves written table remaining target) :
    Ensures x.flush (s.holding q u m) t (s.Reaches written table rows target) := by
  apply (h.flush_spec pending meant).imp
  rintro r s' t' (⟨n, q', m', rfl, rfl, later, -⟩ | refused)
  · exact .inl ⟨n, q', u, m', rfl, rfl, later⟩
  · exact .inr refused

theorem relieve_reaches (h : Upserting s x rows) (pending : s.Pending q u (rows t) target)
    (meant : s.Leaves written table remaining target) :
    Ensures x.relieve (s.holding q u m) t (s.Reaches written table rows target) := by
  rw [Backend.ensures_relieve]
  split
  · exact (h.flush_reaches pending meant).imp fun _ _ _ reached => reached.map _
  · exact .inl ⟨(), q, u, m, rfl, rfl, pending⟩

/-- The UPDATE bound for a row changes the stored rows of its key, and tells whether there are
any. -/
theorem update_spec (h : Upserting s x rows) {row new : Row}
    (width : row.length = s.columns.length) (prepared : s.prepareRow row = .ok new)
    {p : PreparedUpdate} {statement : Statement} (ready : s.upsertUpdate = .ok p)
    (bound : p.bind s.dialect (cellsAt row s.other) (cellsAt row s.search) = .ok statement)
    (t : σ) :
    (x.update (cellsAt row s.other) (cellsAt row s.search) statement).Ensures t fun r t' =>
      ∃ n, r = .ok (some n) ∧ (0 < n ↔ ∃ old ∈ rows t, old.sameKey s.search new = true) ∧
        rows t' = (rows t).map fun old =>
          if old.sameKey s.search new then old.replaced s.search new else old := by
  have settled := settled_of_prepareRow h.keyed h.exact h.settles h.keeps width prepared
  have keys := prepareCells_cellsAt width prepared h.keyed.within
  have others : ∀ i ∈ s.other, i < s.columns.length := by
    rw [h.keyed.other]
    exact fun i inside => (Row.mem_otherPlaces.mp inside).1
  have sets := prepareCells_cellsAt width prepared others
  have same : Row.hasCells s.search (cellsAt new s.search) =
      fun old => old.sameKey s.search new := by
    funext old
    apply Row.hasCells_cellsAt
    rw [settled.width]
    exact h.keyed.within
  have replaces : Row.setCells s.other (cellsAt new s.other) =
      fun old => old.replaced s.search new := by
    funext old
    rw [h.keyed.other, ← settled.width, Row.setCells_cellsAt]
  apply (h.ideal.update t _ _ p statement _ _ ready bound sets keys).imp
  rintro r t' ⟨rfl, changed⟩
  rw [same, replaces] at changed
  refine ⟨_, rfl, ?_, changed⟩
  rw [reported_pos, List.countP_pos_iff, same]

/-- The UPDATE of a row, prepared now or before. -/
theorem runUpdate_spec (h : Upserting s x rows) (ready : ∀ p, u = some p → s.upsertUpdate = .ok p)
    {row new : Row} (width : row.length = s.columns.length) (prepared : s.prepareRow row = .ok new)
    (member : row ∈ written) :
    Ensures (x.runUpdate row) (s.holding q u m) t fun r s' t' =>
      (∃ n u', r = .ok n ∧ s' = s.holding q u' m ∧ (∀ p, u' = some p → s.upsertUpdate = .ok p) ∧
        (0 < n ↔ ∃ old ∈ rows t, old.sameKey s.search new = true) ∧
        rows t' = (rows t).map fun old =>
          if old.sameKey s.search new then old.replaced s.search new else old) ∨
      ∃ f, r = .error f ∧ s.Refuses written table f := by
  have found : Ensures preparedUpdate (s.holding q u m) t fun r s' t' =>
      (∃ p, r = .ok p ∧ s.upsertUpdate = .ok p ∧ s' = s.holding q (some p) m ∧ t' = t) ∨
      ∃ f, r = .error f ∧ s.Refuses written table f := by
    rw [Backend.ensures_preparedUpdate]
    cases known : u with
    | some p => exact .inl ⟨p, rfl, ready p known, rfl, rfl⟩
    | none =>
      dsimp only [holding]
      split
      · rename_i p made
        exact .inl ⟨p, rfl, made, rfl, rfl⟩
      · rename_i f made
        exact .inr ⟨f, rfl, .preparing (List.ne_nil_of_mem member) made⟩
  rw [Backend.ensures_runUpdate]
  apply found.imp
  rintro r s' t' (⟨p, rfl, made, rfl, rfl⟩ | ⟨f, rfl, refused⟩)
  · dsimp only [holding]
    cases bound : p.bind s.dialect (cellsAt row s.other) (cellsAt row s.search) with
    | error f => exact .inr ⟨f, rfl, .binding row p member made bound⟩
    | ok statement =>
      apply (h.update_spec width prepared made bound t').imp
      rintro r t'' ⟨n, rfl, touched, changed⟩
      refine .inl ⟨n, some p, rfl, rfl, ?_, touched, changed⟩
      rintro _ ⟨⟩
      exact made
  · exact .inr ⟨f, rfl, refused⟩

/-- A written row is merged, updates stored rows or is staged; any of these upserts it. -/
theorem placeUpsert_reaches (h : Upserting s x rows) (pending : s.Pending q u (rows t) target)
    {row new : Row} (width : row.length = s.columns.length) (prepared : s.prepareRow row = .ok new)
    (member : row ∈ written) :
    Ensures (x.placeUpsert row) (s.holding q u m) t
      (s.Reaches written table rows (Row.upsert s.search target new)) := by
  have settled := settled_of_prepareRow h.keyed h.exact h.settles h.keeps width prepared
  rw [Backend.ensures_placeUpsert, show (s.holding q u m).prepareRow row = .ok new from prepared]
  dsimp only [holding]
  cases found : q.find? new with
  | some i => exact .inl ⟨_, _, u, _, rfl, rfl, pending.merge h.keyed settled found⟩
  | none =>
    apply (h.runUpdate_spec pending.update width prepared member).imp
    rintro r s' t' (⟨n, u', rfl, rfl, ready, touched, changed⟩ | ⟨f, rfl, refused⟩)
    · have pending' : s.Pending q u' (rows t) target := { pending with update := ready }
      dsimp only
      split
      · rename_i some_touched
        refine .inl ⟨_, q, u', _, rfl, rfl, ?_⟩
        rw [changed]
        exact pending'.change h.keyed settled found (touched.mp some_touched)
      · rename_i none_touched
        have nowhere : ∀ old ∈ rows t, old.sameKey s.search new = false := by
          intro old inside
          apply Bool.eq_false_iff.mpr
          exact fun same => none_touched (touched.mpr ⟨old, inside, same⟩)
        have unchanged : rows t' = rows t := changed.trans (Row.map_replaced_of_others nowhere)
        refine .inl ⟨_, q.push new, u', _, rfl, rfl, ?_⟩
        rw [unchanged]
        exact pending'.stage h.keyed settled found nowhere
    · exact .inr ⟨f, rfl, refused⟩

theorem write_reaches (h : Upserting s x rows) (pending : s.Pending q u (rows t) target)
    {row new : Row} (width : row.length = s.columns.length) (prepared : s.prepareRow row = .ok new)
    (meant : s.Leaves written table (row :: remaining) target) :
    Ensures (x.write row) (s.holding q u m) t
      (s.Reaches written table rows (Row.upsert s.search target new)) := by
  have placed : Ensures (x.place row) (s.holding q u m) t
      (s.Reaches written table rows (Row.upsert s.search target new)) := by
    have checked : (s.holding q u m).checkRow row = .ok () := if_neg (not_not_intro width)
    rw [Backend.ensures_place, checked, show (s.holding q u m).mode = _ from h.keyed.mode]
    exact h.placeUpsert_reaches pending width prepared meant.mem
  rw [Backend.ensures_write]
  apply placed.imp
  rintro r s' t' (⟨outcome, q', u', m', rfl, rfl, later⟩ | ⟨f, rfl, refused⟩)
  · cases outcome with
    | staged =>
      apply (h.relieve_reaches later (meant.next prepared)).imp
      exact fun _ _ _ reached => reached.map _
    | merged => exact .inl ⟨_, q', u', m', rfl, rfl, later⟩
    | updated n => exact .inl ⟨_, q', u', m', rfl, rfl, later⟩
    | unmatched => exact .inl ⟨_, q', u', m', rfl, rfl, later⟩
  · exact .inr ⟨f, rfl, refused⟩

/-- Whatever is asked for, in the end the rows are in the table as if written one by one. -/
theorem carryOut_spec (h : Upserting s x rows) (requests : List Request)
    (width : ∀ row ∈ Request.rows requests, row.length = s.columns.length) {ready : List Row}
    (prepared : (Request.rows requests).mapM s.prepareRow = .ok ready)
    (pending : s.Pending q u (rows t) target)
    (meant : s.Leaves written table (Request.rows requests) target) :
    Ensures (x.carryOut requests) (s.holding q u m) t fun r _ t' =>
      (∃ summary, r = .ok summary ∧ rows t' = ready.foldl (Row.upsert s.search) target) ∨
      ∃ f, r = .error f ∧ s.Refuses written table f := by
  induction requests generalizing q u m target t ready with
  | nil =>
    cases prepared
    rw [Backend.carryOut, Backend.ensures_finish]
    apply (h.flush_spec pending meant).imp
    rintro r s' t' (⟨n, q', m', rfl, rfl, -, all⟩ | ⟨f, rfl, refused⟩)
    · exact .inl ⟨_, rfl, all⟩
    · exact .inr ⟨f, rfl, refused⟩
  | cons request rest ih =>
    cases request with
    | write row =>
      obtain ⟨new, later, first, others, rfl⟩ :=
        List.forall₂_cons_left_iff.mp (mapM_eq_ok_iff.mp prepared)
      have step := h.write_reaches (m := m) pending (width row List.mem_cons_self) first meant
      rw [Backend.carryOut, ensures_bind, ensures_discard]
      apply step.imp
      rintro r s' t' (⟨outcome, q', u', m', rfl, rfl, pending'⟩ | ⟨f, rfl, refused⟩)
      · rw [List.foldl_cons]
        exact ih (fun r inside => width r (List.mem_cons_of_mem row inside))
          (mapM_eq_ok_iff.mpr others) pending' (meant.next first)
      · exact .inr ⟨f, rfl, refused⟩
    | flush =>
      rw [Backend.carryOut, ensures_bind, ensures_discard]
      apply (h.flush_reaches (m := m) pending meant).imp
      rintro r s' t' (⟨n, q', u', m', rfl, rfl, pending'⟩ | ⟨f, rfl, refused⟩)
      · exact ih width prepared pending' meant
      · exact .inr ⟨f, rfl, refused⟩

theorem session_spec (h : Upserting s x rows) (fresh : s.Fresh) (requests : List Request)
    (width : ∀ row ∈ Request.rows requests, row.length = s.columns.length) {ready : List Row}
    (prepared : (Request.rows requests).mapM s.prepareRow = .ok ready) (t : σ) :
    Ensures (x.carryOut requests) s t fun r _ t' =>
      (∃ summary, r = .ok summary ∧ rows t' = ready.foldl (Row.upsert s.search) (rows t)) ∨
      ∃ f, r = .error f ∧ s.Refuses (Request.rows requests) (rows t) f := by
  have done := h.carryOut_spec (m := s.summary) (t := t) requests width prepared
    (Session.Pending.fresh s (rows t)) (Session.Leaves.start s _ (rows t))
  rwa [fresh.holding_self] at done

end Upserting

/-- A session of a built-in dialect that is opened to insert or update rows, and that compares no
floating-point keys, leaves in an ideal table what writing its rows one by one would have left:
for every batch size and limit of staged rows, and wherever it is flushed. It only ends otherwise if
the dialect refuses one of its statements. -/
theorem upsert_session (b : Builtin) {table : String} {columns : List Column} {names : List String}
    {opened s : Session}
    (start : Session.start b.dialect table columns names .insertOrUpdate = .ok opened)
    (exact : opened.ExactKeys) (batchSize maxStaged : Nat)
    (limits : s = (opened.withBatchSize batchSize).withMaxStaged maxStaged)
    {x : Backend σ} {rows : σ → List Row} (ideal : IdealTable s x rows) (requests : List Request)
    (width : ∀ row ∈ Request.rows requests, row.length = columns.length) {ready : List Row}
    (prepared : (Request.rows requests).mapM s.prepareRow = .ok ready) (t : σ) :
    Ensures (x.carryOut requests) s t fun r _ t' =>
      (∃ summary, r = .ok summary ∧ rows t' = ready.foldl (Row.upsert s.search) (rows t)) ∨
      ∃ f, r = .error f ∧ s.Refuses (Request.rows requests) (rows t) f := by
  obtain ⟨keyed, fresh, dialect, rfl⟩ := start_keyed start
  subst limits
  have same : ((opened.withBatchSize batchSize).withMaxStaged maxStaged).dialect = b.dialect :=
    dialect
  have setting : Upserting ((opened.withBatchSize batchSize).withMaxStaged maxStaged) x rows := by
    refine ⟨keyed.withLimits batchSize maxStaged, exact, ?_, ?_, ideal⟩
    · rw [same]
      exact b.settles
    · rw [same]
      exact b.keepsExact
  exact setting.session_spec (fresh.withLimits batchSize maxStaged) requests width prepared t

/-- A table of people, each known by a number. -/
def people : Session where
  dialect := Builtin.sqlite.dialect
  table := "People"
  columns := [.of "Id" .integer, .of "Name" .string]
  mode := .insertOrUpdate
  search := [0]
  other := [1]
  batchSize := 499
  maxStaged := 10000
  staging := .empty [0]
  update := none
  summary := {}

theorem start_people :
    Session.start Builtin.sqlite.dialect "People" [.of "Id" .integer, .of "Name" .string] ["Id"]
      .insertOrUpdate = .ok people := by
  have named : Text.isAllBlank "People" = false := by decide +kernel
  have checked : checkColumns "People" [] [.of "Id" .integer, .of "Name" .string] = .ok () := by
    decide +kernel
  have located : locate "People" [.of "Id" .integer, .of "Name" .string] [] ["Id"] = .ok [0] := by
    decide +kernel
  simp only [Session.start, named, checked, located]
  rfl

/-- A person who is renamed after a flush, and another one. -/
def renames : List Request :=
  [.write [.int 1, .string "Ann"], .flush, .write [.int 1, .string "Bob"],
    .write [.int 2, .string "Eve"]]

theorem upsert_session_people :
    Ensures (((people.withBatchSize 1).withMaxStaged 2).idealTable.carryOut renames)
      ((people.withBatchSize 1).withMaxStaged 2) [] fun r _ table =>
        (∃ summary, r = .ok summary) ∧
          table = [[.int 1, .string "Bob"], [.int 2, .string "Eve"]] := by
  have exact_keys : people.ExactKeys := by
    intro i member c column
    rw [List.mem_singleton.mp member] at column
    cases column
    decide
  have prepared :
      (Request.rows renames).mapM ((people.withBatchSize 1).withMaxStaged 2).prepareRow =
        .ok [[.int 1, .string "Ann"], [.int 1, .string "Bob"], [.int 2, .string "Eve"]] := by
    decide +kernel
  have reached := upsert_session .sqlite start_people exact_keys 1 2 rfl
    (Session.idealTable_ideal _) renames (by decide) prepared []
  have ended : Ensures (((people.withBatchSize 1).withMaxStaged 2).idealTable.carryOut renames)
      ((people.withBatchSize 1).withMaxStaged 2) [] fun r _ _ => r = .ok ⟨2, 1, 0, 0, 2⟩ := by
    unfold Ensures
    decide +kernel
  obtain ⟨_, -, table⟩ | ⟨f, failed, -⟩ := reached
  · exact ⟨⟨_, ended⟩, table⟩
  · cases ended.symm.trans failed

end SqlScribe

import SqlScribe.Proofs.Groups
import SqlScribe.Proofs.Value.Preparation
import SqlScribe.Proofs.Writer.Calls
import SqlScribe.Proofs.Writer.Opening

/-!
# Ideal tables

A table that does what it is told and never fails: its UPDATE sets the cells of the rows that have a
key, its INSERT and its bulk load append rows, and all of them count what they did.
-/

namespace SqlScribe

namespace Session

/-- Cells for some of the columns, as the database takes them. -/
def prepareCells (s : Session) (places : List Nat) (cells : List Value) :
    Except Fault (List Value) :=
  (cells.zip (s.columnsAt places)).mapM fun (value, column) => s.dialect.prepare value column.type

/-- The UPDATE of a session that inserts or updates. -/
def upsertUpdate (s : Session) : Except Fault PreparedUpdate :=
  PreparedUpdate.prepare s.dialect s.table (s.columnsAt s.other) (s.columnsAt s.search)

/-- The INSERT of some rows. -/
def batchInsert (s : Session) (batch : List Row) : Except Fault Statement :=
  Insert.compile s.dialect s.dialect.preferredMode ⟨s.table, s.columns, batch⟩

variable {s : Session} {row new : Row}

/-- A prepared row has the prepared form of each cell. -/
theorem prepareRow_eq_ok (width : row.length = s.columns.length) :
    s.prepareRow row = .ok new ↔ new.length = s.columns.length ∧
      ∀ i (hr : i < row.length) (hc : i < s.columns.length) (hn : i < new.length),
        s.dialect.prepare row[i] s.columns[i].type = .ok new[i] := by
  rw [prepareRow, mapM_eq_ok_iff, List.forall₂_iff_get]
  simp only [List.length_zip, width, Nat.min_self, List.get_eq_getElem, List.getElem_zip]
  constructor
  · rintro ⟨length, cells⟩
    exact ⟨length.symm, fun i _ hc hn => cells i hc hn⟩
  · rintro ⟨length, cells⟩
    exact ⟨length.symm, fun i hc hn => cells i (by omega) hc hn⟩

/-- The prepared form of some cells of a row are these cells of the prepared row. -/
theorem prepareCells_cellsAt (width : row.length = s.columns.length)
    (h : s.prepareRow row = .ok new) {places : List Nat}
    (within : ∀ i ∈ places, i < s.columns.length) :
    s.prepareCells places (cellsAt row places) = .ok (cellsAt new places) := by
  obtain ⟨length, cells⟩ := (prepareRow_eq_ok width).mp h
  rw [prepareCells, mapM_eq_ok_iff]
  induction places with
  | nil => exact .nil
  | cons i rest ih =>
    have hc : i < s.columns.length := within i List.mem_cons_self
    have hr : i < row.length := by omega
    have hn : i < new.length := by omega
    simp only [cellsAt, columnsAt, List.filterMap_cons, List.getElem?_eq_getElem hc,
      List.getElem?_eq_getElem hr, List.getElem?_eq_getElem hn, List.zip_cons_cons]
    exact .cons (cells i hr hc hn) (ih fun j hj => within j (List.mem_cons_of_mem i hj))

/-- The row is as the database takes it, and its key can be compared. -/
structure Settled (s : Session) (row : Row) : Prop where
  width : row.length = s.columns.length
  prepared : s.prepareRow row = .ok row
  exact : row.Exact s.search

/-- No key column holds floating-point numbers. -/
def ExactKeys (s : Session) : Prop :=
  ∀ i ∈ s.search, ∀ c, s.columns[i]? = some c → c.type ≠ .float

/-- A prepared row is prepared as it is. -/
theorem prepareRow_prepared (settles : s.dialect.Settles) (width : row.length = s.columns.length)
    (h : s.prepareRow row = .ok new) :
    new.length = s.columns.length ∧ s.prepareRow new = .ok new := by
  obtain ⟨length, cells⟩ := (prepareRow_eq_ok width).mp h
  refine ⟨length, (prepareRow_eq_ok length).mpr ⟨length, ?_⟩⟩
  intro i hr hc _
  exact settles _ _ _ (cells i (by omega) hc hr)

theorem settled_of_prepareRow (keyed : s.Keyed) (exact : s.ExactKeys)
    (settles : s.dialect.Settles) (keeps : s.dialect.KeepsExact)
    (width : row.length = s.columns.length) (h : s.prepareRow row = .ok new) : s.Settled new := by
  obtain ⟨length, cells⟩ := (prepareRow_eq_ok width).mp h
  refine ⟨length, (prepareRow_prepared settles width h).2, fun i member => ?_⟩
  have hc := keyed.within i member
  have hn : i < new.length := by omega
  rw [Row.cell, List.getElem?_eq_getElem hn, Option.getD_some]
  exact keeps _ _ _ (keyed.typed _ (List.getElem_mem hc))
    (exact i member _ (List.getElem?_eq_getElem hc)) (cells i (by omega) hc hn)

/-- A replaced row has the prepared cells of both rows. -/
theorem Settled.replaced {old : Row} (h : s.Settled old) (h' : s.Settled new) :
    s.Settled (old.replaced s.search new) := by
  have length : (old.replaced s.search new).length = old.length := Row.length_replaced old new
  have olds := ((prepareRow_eq_ok h.width).mp h.prepared).2
  have news := ((prepareRow_eq_ok h'.width).mp h'.prepared).2
  refine ⟨by rw [length, h.width], (prepareRow_eq_ok (by rw [length, h.width])).mpr
    ⟨by rw [length, h.width], ?_⟩, ?_⟩
  · intro i hr hc _
    have ho : i < old.length := by omega
    have hn : i < new.length := by rw [h'.width]; exact hc
    simp only [Row.replaced, List.getElem_mapIdx, List.getElem?_eq_getElem hn, Option.getD_some]
    split
    · exact olds i ho hc ho
    · exact news i hn hc hn
  · intro i member
    rw [Row.cell_replaced member]
    exact h.exact i member

/-- The rows are not loaded in bulk, and of the batches that they make the dialect does not write the
INSERT of one. -/
def Rejects (s : Session) (rows : List Row) (f : Fault) : Prop :=
  s.dialect.features.bulkLoad = false ∧
    ∃ batch ∈ inGroups s.batchSize rows, s.batchInsert batch = .error f

/-- Of the written rows some remain, and the others, upserted one by one into a table, leave what is
meant to be there now. -/
def Leaves (s : Session) (written table remaining target : List Row) : Prop :=
  ∃ first ready, first ++ remaining = written ∧ first.mapM s.prepareRow = .ok ready ∧
    target = ready.foldl (Row.upsert s.search) table

namespace Leaves

variable {written table remaining target : List Row}

theorem start (s : Session) (written table : List Row) : s.Leaves written table written table :=
  ⟨[], [], rfl, rfl, rfl⟩

theorem next (h : s.Leaves written table (row :: remaining) target)
    (prepared : s.prepareRow row = .ok new) :
    s.Leaves written table remaining (Row.upsert s.search target new) := by
  obtain ⟨first, ready, split, stored, rfl⟩ := h
  refine ⟨first ++ [row], ready ++ [new], ?_, ?_, ?_⟩
  · rw [List.append_assoc, List.singleton_append, split]
  · have last : List.Forall₂ (fun x y => s.prepareRow x = .ok y) [row] [new] :=
      .cons prepared .nil
    exact mapM_eq_ok_iff.mpr (List.rel_append (mapM_eq_ok_iff.mp stored) last)
  · rw [List.foldl_append, List.foldl_cons, List.foldl_nil]

theorem mem (h : s.Leaves written table (row :: remaining) target) : row ∈ written := by
  obtain ⟨first, _, split, -, -⟩ := h
  rw [← split]
  exact List.mem_append_right first List.mem_cons_self

end Leaves

/-- Why a session may end before it has written its rows to a table: the dialect does not write its
UPDATE, the UPDATE of a written row, or the INSERT of a batch of staged rows, which are what the
table lacks at that point. -/
inductive Refuses (s : Session) (written table : List Row) (f : Fault) : Prop
  | preparing (needed : written ≠ []) (refused : s.upsertUpdate = .error f)
  | binding (row : Row) (p : PreparedUpdate) (member : row ∈ written)
      (ready : s.upsertUpdate = .ok p)
      (refused : p.bind s.dialect (cellsAt row s.other) (cellsAt row s.search) = .error f)
  | inserting (remaining stored staged : List Row)
      (meant : s.Leaves written table remaining (stored ++ staged)) (refused : s.Rejects staged f)

end Session

/-- The number of rows, as an executor reports it. -/
def reported (rows : Nat) : UInt64 := .ofNat (min rows (UInt64.size - 1))

theorem reported_pos {rows : Nat} : 0 < reported rows ↔ 0 < rows := by
  have small : min rows (UInt64.size - 1) < UInt64.size := by
    have : 0 < UInt64.size := by decide
    omega
  rw [reported, UInt64.lt_iff_toNat_lt, UInt64.toNat_ofNat_of_lt' small]
  have : 1 < UInt64.size := by decide
  simp only [UInt64.toNat_zero, Nat.lt_min]
  omega

variable {σ : Type}

/-- The executor's states are tables of rows, and the calls of a session do to them what they are
meant to do. -/
structure IdealTable (s : Session) (x : Backend σ) (rows : σ → List Row) : Prop where
  update : ∀ t set keys p statement set' keys', s.upsertUpdate = .ok p →
    p.bind s.dialect set keys = .ok statement →
    s.prepareCells s.other set = .ok set' → s.prepareCells s.search keys = .ok keys' →
    (x.update set keys statement).Ensures t fun r t' =>
      r = .ok (some (reported ((rows t).countP (Row.hasCells s.search keys')))) ∧
      rows t' = (rows t).map fun old =>
        if old.hasCells s.search keys' then old.setCells s.other set' else old
  insert : ∀ t batch statement stored, s.batchInsert batch = .ok statement →
    batch.mapM s.prepareRow = .ok stored →
    (x.insert batch statement).Ensures t fun r t' =>
      r = .ok (some (reported stored.length)) ∧ rows t' = rows t ++ stored
  bulkLoad : ∀ t load, load.table = s.table → load.columns = s.columns →
    (x.bulkLoad load).Ensures t fun r t' =>
      r = .ok (reported load.rows.length) ∧ rows t' = rows t ++ load.rows

/-- A table that is nothing but its rows. -/
def Session.idealTable (s : Session) : Backend (List Row) where
  update set keys _ := ExceptT.mk fun table =>
    match s.prepareCells s.other set, s.prepareCells s.search keys with
    | .ok set', .ok keys' =>
      (.ok (some (reported (table.countP (Row.hasCells s.search keys')))),
        table.map fun old => if old.hasCells s.search keys' then old.setCells s.other set' else old)
    | _, _ => (.error (.uncounted .update s.table), table)
  insert batch _ := ExceptT.mk fun table =>
    match batch.mapM s.prepareRow with
    | .ok stored => (.ok (some (reported stored.length)), table ++ stored)
    | .error e => (.error e, table)
  bulkLoad load := ExceptT.mk fun table => (.ok (reported load.rows.length), table ++ load.rows)

theorem Session.idealTable_ideal (s : Session) : IdealTable s s.idealTable id where
  update t set keys p statement set' keys' _ _ sets finds := by
    have run : ((s.idealTable.update set keys statement).run.run t) =
        (.ok (some (reported (t.countP (Row.hasCells s.search keys')))),
          t.map fun old =>
            if old.hasCells s.search keys' then old.setCells s.other set' else old) := by
      change (match s.prepareCells s.other set, s.prepareCells s.search keys with
        | .ok set', .ok keys' => _
        | _, _ => _) = _
      rw [sets, finds]
    unfold Answer.Ensures
    rw [run]
    exact ⟨rfl, rfl⟩
  insert t batch statement stored _ prepared := by
    have run : ((s.idealTable.insert batch statement).run.run t) =
        (.ok (some (reported stored.length)), t ++ stored) := by
      change (match batch.mapM s.prepareRow with
        | .ok stored => _
        | .error e => _) = _
      rw [prepared]
    unfold Answer.Ensures
    rw [run]
    exact ⟨rfl, rfl⟩
  bulkLoad t load _ _ := ⟨rfl, rfl⟩

namespace IdealTable

variable {s : Session} {x : Backend σ} {rows : σ → List Row}

/-- Batches of prepared rows are appended one after the other. -/
theorem insertBatches_appends (ideal : IdealTable s x rows) (batches : List (List Row))
    (settled : ∀ batch ∈ batches, ∀ row ∈ batch, s.Settled row) (total : UInt64) (t : σ) :
    (x.insertBatches s total batches).Ensures t fun r t' =>
      (∃ n, r = .ok n ∧ rows t' = rows t ++ batches.flatten) ∨
      ∃ f, r = .error f ∧ ∃ batch ∈ batches, s.batchInsert batch = .error f := by
  induction batches generalizing total t with
  | nil => exact .inl ⟨total, rfl, (List.append_nil _).symm⟩
  | cons batch rest ih =>
    rw [Backend.ensures_insertBatches_cons]
    cases compiled :
        Insert.compile s.dialect s.dialect.preferredMode ⟨s.table, s.columns, batch⟩ with
    | error f => exact .inr ⟨f, rfl, batch, List.mem_cons_self, compiled⟩
    | ok statement =>
      have again : batch.mapM s.prepareRow = .ok batch := by
        rw [mapM_eq_ok_iff, List.forall₂_same]
        exact fun row member => (settled batch List.mem_cons_self row member).prepared
      apply (ideal.insert t batch statement batch compiled again).imp
      rintro r t' ⟨rfl, appended⟩
      apply (ih (fun b hb => settled b (List.mem_cons_of_mem _ hb)) _ t').imp
      rintro r t'' (⟨n, rfl, later⟩ | ⟨f, rfl, other, member, refused⟩)
      · refine .inl ⟨n, rfl, ?_⟩
        rw [later, appended, List.flatten_cons, List.append_assoc]
      · exact .inr ⟨f, rfl, other, List.mem_cons_of_mem batch member, refused⟩

/-- Prepared rows are handed over as they are, on either way. -/
theorem load_appends (ideal : IdealTable s x rows) (staged : List Row)
    (settled : ∀ row ∈ staged, s.Settled row) (t : σ) :
    (x.load s staged).Ensures t fun r t' =>
      (∃ n, r = .ok n ∧ rows t' = rows t ++ staged) ∨
      ∃ f, r = .error f ∧ s.Rejects staged f := by
  unfold Backend.load
  split
  · apply (ideal.bulkLoad t ⟨s.table, s.columns, staged, !s.search.isEmpty⟩ rfl rfl).imp
    rintro r t' ⟨rfl, appended⟩
    exact .inl ⟨_, rfl, appended⟩
  · rename_i single
    have parts : ∀ batch ∈ inGroups s.batchSize staged, ∀ row ∈ batch, s.Settled row := by
      intro batch hb row member
      apply settled
      rw [← flatten_inGroups s.batchSize staged]
      exact List.mem_flatten_of_mem hb member
    apply (ideal.insertBatches_appends _ parts 0 t).imp
    rintro r t' (⟨n, rfl, appended⟩ | ⟨f, rfl, refused⟩)
    · rw [flatten_inGroups] at appended
      exact .inl ⟨n, rfl, appended⟩
    · exact .inr ⟨f, rfl, Bool.eq_false_iff.mpr single, refused⟩

end IdealTable

end SqlScribe

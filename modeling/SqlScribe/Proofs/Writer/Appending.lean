import SqlScribe.Literal.Reader
import SqlScribe.Proofs.Literal.Prepared
import SqlScribe.Proofs.Statement.Refilling
import SqlScribe.Proofs.Writer.IdealTable
import SqlScribe.Proofs.Writer.Pending

/-!
# Insert sessions

A session that only inserts hands every row over once and in order, whether the row was staged or
went to the database directly. What it hands over is a bulk load, or an INSERT whose parameters are
the cells of its rows.
-/

namespace SqlScribe

open Emit

namespace Insert

variable {d : Dialect}

/-- The values of an INSERT are the cells of its rows, in order. -/
theorem emitRows_refilled (d : Dialect) (columns : List Column) (index : Nat) (rows : List Row) :
    Refilled d (emitRows d columns index rows) (emitRows d columns index rows)
      (rows.flatMap (cellsOf columns)) := by
  induction rows generalizing index with
  | nil => exact .nothing d
  | cons row rest ih =>
    have each (cells : List (Value × Column)) : RefilledAll d
        (cells.map fun cell => Emit.value d cell.1 cell.2.type)
        (cells.map fun cell => Emit.value d cell.1 cell.2.type)
        (cells.map fun cell => (cell.1, cell.2.type)) := by
      induction cells with
      | nil => exact .nil
      | cons cell others ih => exact .cons (.value d cell.1 cell.1 cell.2.type) ih
    have cells : Refilled d (emitCells d (row.zip columns)) (emitCells d (row.zip columns))
        (cellsOf columns row) := by
      rw [cellsOf_eq]
      exact (each (row.zip columns)).separated ", "
    simp only [emitRows, List.flatMap_cons]
    by_cases differ : row.length ≠ columns.length
    · simp only [if_pos differ]
      exact .refuse d _ _
    · simp only [if_neg differ]
      exact .cons (cells.seq (.cons (ih (index + 1))))

/-- The parameters of an INSERT are made of those cells of its rows that are bound. -/
theorem params_of_compile {i : Insert} {s : Statement}
    (compiled : i.compile d d.preferredMode = .ok s) :
    ((i.rows.flatMap (cellsOf i.columns)).filter fun cell => d.binds cell.2).mapM d.parameter =
      .ok s.params := by
  have rows := emitRows_refilled d i.columns 0 i.rows
  have written : Refilled d (i.emit d) (i.emit d) (i.rows.flatMap (cellsOf i.columns)) := by
    apply Refilled.attempt
    intro _ _
    exact .cons (.attempt fun table _ => .cons (.attempt fun names _ => .cons rows))
  exact written.params_of_compile compiled

end Insert

/-- What an executor is handed. -/
inductive Handed
  | load (l : BulkLoad)
  | statement (s : Statement)
deriving DecidableEq

variable {σ α : Type}

namespace Executor

/-- The executor takes every call and counts what it did. -/
structure Accepts (x : Executor σ) : Prop where
  execute : ∀ statement t, (x.execute statement).Ensures t fun r _ => ∃ n, r = .ok (some n)
  bulkLoad : ∀ load t, (x.bulkLoad load).Ensures t fun r _ => ∃ n, r = .ok n

/-- The same executor with a record of what it was handed, in order. -/
def recording (x : Executor σ) : Executor (σ × List Handed) where
  execute statement := ExceptT.mk fun (t, log) =>
    let (r, t') := (x.execute statement).run.run t
    (r, t', log ++ [.statement statement])
  bulkLoad load := ExceptT.mk fun (t, log) =>
    let (r, t') := (x.bulkLoad load).run.run t
    (r, t', log ++ [.load load])

namespace Accepts

variable {x : Executor σ}

theorem recording_execute (h : x.Accepts) (statement : Statement) (t : σ × List Handed) :
    (x.recording.execute statement).Ensures t fun r t' =>
      ∃ n, r = .ok (some n) ∧ t'.2 = t.2 ++ [.statement statement] := by
  obtain ⟨n, counted⟩ := h.execute statement t.1
  exact ⟨n, counted, rfl⟩

theorem recording_bulkLoad (h : x.Accepts) (load : BulkLoad) (t : σ × List Handed) :
    (x.recording.bulkLoad load).Ensures t fun r t' =>
      ∃ n, r = .ok n ∧ t'.2 = t.2 ++ [.load load] := by
  obtain ⟨n, counted⟩ := h.bulkLoad load t.1
  exact ⟨n, counted, rfl⟩

end Accepts

end Executor

namespace Session

/-- The executor is handed these rows: in a bulk load, or as the INSERT that is compiled for
them. -/
inductive Delivers (s : Session) : Handed → List Row → Prop
  | load (rows : List Row) (keepIdentity : Bool) :
    Delivers s (.load ⟨s.table, s.columns, rows, keepIdentity⟩) rows
  | insert {rows : List Row} {statement : Statement}
      (compiled : s.batchInsert rows = .ok statement) : Delivers s (.statement statement) rows

/-- A batch of the size of the session, for which the dialect does not write the INSERT. -/
structure Declines (s : Session) (batch : List Row) (f : Fault) : Prop where
  single : s.dialect.features.bulkLoad = false
  nonempty : 0 < batch.length
  within : batch.length ≤ s.batchSize
  refused : s.batchInsert batch = .error f

/-- Rows have been handed over in order: all of them, or those before a batch that the dialect does
not write. -/
def Sends (s : Session) (rows : List Row) (r : Except Fault α) (log : List Handed) : Prop :=
  ∃ batches, List.Forall₂ s.Delivers log batches ∧
    ((∃ a, r = .ok a ∧ batches.flatten = rows) ∨
      ∃ f batch, r = .error f ∧ batches.flatten ++ batch <+: rows ∧ s.Declines batch f)

namespace Sends

variable {β : Type} {s : Session} {rows more : List Row} {r : Except Fault α}
  {log later : List Handed}

theorem nothing (s : Session) (a : α) : s.Sends [] (.ok a) [] :=
  ⟨[], .nil, .inl ⟨a, rfl, rfl⟩⟩

theorem refused {batch : List Row} {f : Fault} (refused : s.Declines batch f)
    (before : batch <+: rows) : s.Sends rows (.error f : Except Fault α) [] :=
  ⟨[], .nil, .inr ⟨f, batch, rfl, before, refused⟩⟩

theorem one {handed : Handed} (delivers : s.Delivers handed rows) (a : α) :
    s.Sends rows (.ok a) [handed] :=
  ⟨[rows], .cons delivers .nil, .inl ⟨a, rfl, by simp⟩⟩

/-- What is sent after other rows is sent behind them. -/
theorem append {a : β} (h : s.Sends rows (.ok a) log) (h' : s.Sends more r later) :
    s.Sends (rows ++ more) r (log ++ later) := by
  obtain ⟨batches, delivered, ⟨_, -, rfl⟩ | ⟨f, _, ⟨⟩, -⟩⟩ := h
  obtain ⟨others, delivered', ended⟩ := h'
  refine ⟨batches ++ others, List.rel_append delivered delivered', ?_⟩
  rw [List.flatten_append]
  obtain ⟨a, rfl, rfl⟩ | ⟨f, batch, rfl, before, refused⟩ := ended
  · exact .inl ⟨a, rfl, rfl⟩
  · refine .inr ⟨f, batch, rfl, ?_, refused⟩
    rw [List.append_assoc]
    exact (List.prefix_append_right_inj batches.flatten).mpr before

/-- Rows that were to follow do not matter behind a fault. -/
theorem stopped {f : Fault} (h : s.Sends rows (.error f : Except Fault α) log)
    (before : rows <+: more) : s.Sends more (.error f : Except Fault β) log := by
  obtain ⟨batches, delivered, ⟨_, ⟨⟩, -⟩ | ⟨_, batch, ⟨⟩, within, refused⟩⟩ := h
  exact ⟨batches, delivered, .inr ⟨f, batch, rfl, within.trans before, refused⟩⟩

theorem answered {a : α} (h : s.Sends rows (.ok a) log) (b : β) : s.Sends rows (.ok b) log := by
  obtain ⟨batches, delivered, ⟨_, -, all⟩ | ⟨f, _, ⟨⟩, -⟩⟩ := h
  exact ⟨batches, delivered, .inl ⟨b, rfl, all⟩⟩

end Sends

end Session

namespace Backend

open Session

variable {s : Session} {x : Executor σ}

/-- Batches are handed over one by one, up to one that the dialect does not write. -/
theorem insertBatches_delivers (accepts : x.Accepts)
    (single : s.dialect.features.bulkLoad = false) (total : UInt64) (batches : List (List Row))
    (sized : ∀ batch ∈ batches, 0 < batch.length ∧ batch.length ≤ s.batchSize)
    (t : σ × List Handed) :
    (x.recording.backend.insertBatches s total batches).Ensures t fun r t' =>
      ∃ new, t'.2 = t.2 ++ new ∧ s.Sends batches.flatten r new := by
  induction batches generalizing total t with
  | nil => exact ⟨[], (List.append_nil _).symm, .nothing s total⟩
  | cons batch rest ih =>
    rw [ensures_insertBatches_cons, List.flatten_cons]
    cases compiled :
        Insert.compile s.dialect s.dialect.preferredMode ⟨s.table, s.columns, batch⟩ with
    | error f =>
      have before : batch <+: batch ++ rest.flatten := List.prefix_append _ _
      obtain ⟨nonempty, within⟩ := sized batch List.mem_cons_self
      have declines : s.Declines batch f := ⟨single, nonempty, within, compiled⟩
      exact ⟨[], (List.append_nil _).symm, .refused declines before⟩
    | ok statement =>
      apply (accepts.recording_execute statement t).imp
      rintro r t' ⟨n, rfl, log⟩
      apply (ih (total + n) (fun b later => sized b (List.mem_cons_of_mem batch later)) t').imp
      rintro r t'' ⟨new, log', sent⟩
      have first : s.Sends batch (.ok n) [.statement statement] := .one (.insert compiled) n
      refine ⟨.statement statement :: new, ?_, first.append sent⟩
      rw [log', log, List.append_assoc]
      rfl

/-- Rows are handed over in order, in one load or in batches. -/
theorem load_delivers (accepts : x.Accepts) (positive : 0 < s.batchSize) (rows : List Row)
    (t : σ × List Handed) :
    (x.recording.backend.load s rows).Ensures t fun r t' =>
      ∃ new, t'.2 = t.2 ++ new ∧ s.Sends rows r new := by
  unfold load
  by_cases bulk : s.dialect.features.bulkLoad = true
  · rw [if_pos bulk]
    apply (accepts.recording_bulkLoad ⟨s.table, s.columns, rows, !s.search.isEmpty⟩ t).imp
    rintro r t' ⟨n, rfl, log⟩
    exact ⟨_, log, .one (.load rows _) n⟩
  · rw [if_neg bulk]
    have sized : ∀ batch ∈ inGroups s.batchSize rows,
        0 < batch.length ∧ batch.length ≤ s.batchSize := fun _ member =>
      ⟨pos_of_mem_inGroups member, length_le_of_mem_inGroups positive member⟩
    have sent := insertBatches_delivers accepts (Bool.eq_false_iff.mpr bulk) 0 _ sized t
    rwa [flatten_inGroups] at sent

end Backend

namespace Backend

open Session Writing

/-- An insert session flushes, and then hands the prepared rows over directly if there are any. -/
theorem ensures_writeAll {s : Session} (inserts : s.mode = .insert) (x : Backend σ)
    (rows : List Row) (t : σ) (P : Except Fault UInt64 → Session → σ → Prop) :
    Ensures (x.writeAll rows) s t P ↔ Ensures x.flush s t fun r s' t' =>
      match r with
      | .error e => P (.error e) s' t'
      | .ok _ =>
        match rows.mapM fun row => do
          s'.checkRow row
          s'.prepareRow row with
        | .error e => P (.error e) s' t'
        | .ok new =>
          if new = [] then P (.ok 0) s' t'
          else (x.load s' new).Ensures t' fun r t'' =>
            match r with
            | .ok n => P (.ok n) (s'.countLoad n) t''
            | .error e => P (.error e) s' t'' := by
  simp only [writeAll, ensures_bind, ensures_get, ensures_ite, inserts, ne_eq, not_true, if_false,
    ensures_discard, ensures_attempt, ensures_pure, ensures_ask, ensures_set, List.isEmpty_iff]
  apply ensures_congr
  intro r s' t'
  cases r with
  | error e => exact Iff.rfl
  | ok n =>
    simp only [Except.map]
    split
    · rename_i new written
      simp only [written]
      split
      · exact Iff.rfl
      · apply Answer.ensures_congr
        intro r t''
        cases r <;> exact Iff.rfl
    · rename_i e written
      simp only [written]

end Backend

/-- An insert session over an executor that takes every call. -/
structure Appending (s : Session) (x : Executor σ) : Prop where
  mode : s.mode = .insert
  batch : 0 < s.batchSize
  accepts : x.Accepts

namespace Session

end Session

namespace Appending

open Session Writing

variable {s : Session} {x : Executor σ} {q : Staging} {m : Summary} {sent target : List Row}
  {t : σ × List Handed}

/-- A flush hands over what is staged behind all that was handed over before. -/
theorem flush_spec (h : Appending s x) (before : s.Sends sent (Except.ok ()) t.2) :
    Ensures x.recording.backend.flush (s.holding q none m) t fun r s' t' =>
      (∃ n q' m', r = .ok n ∧ s' = s.holding q' none m' ∧ q'.rows = [] ∧
        s.Sends (sent ++ q.rows) (Except.ok ()) t'.2) ∨
      ∃ f, r = .error f ∧ s.Sends (sent ++ q.rows) (Except.error f : Except Fault Unit) t'.2 := by
  rw [Backend.ensures_flush]
  by_cases nothing : q.rows = []
  · have same : sent ++ q.rows = sent := by rw [nothing, List.append_nil]
    rw [same]
    exact (if_pos nothing).mpr (.inl ⟨0, q, m, rfl, rfl, nothing, before⟩)
  · apply (if_neg nothing).mpr
    change (x.recording.backend.load (s.holding q none m) q.rows).Ensures t _
    rw [Backend.load_holding]
    apply (Backend.load_delivers h.accepts h.batch q.rows t).imp
    rintro r t' ⟨new, log, delivered⟩
    have all := before.append delivered
    rw [← log] at all
    cases r with
    | ok n => exact .inl ⟨n, q.clear, _, rfl, rfl, rfl, all.answered ()⟩
    | error f => exact .inr ⟨f, rfl, all.stopped (List.prefix_refl _)⟩

end Appending

/-- What an insert session may be asked for before it finishes. -/
inductive Session.Command
  | write (row : Row)
  | writeAll (rows : List Row)
  | flush

/-- The rows that are to be written, in order. -/
def Session.Command.rows : List Command → List Row
  | [] => []
  | write row :: rest => row :: rows rest
  | writeAll many :: rest => many ++ rows rest
  | flush :: rest => rows rest

/-- Carries out commands and finishes; a fault ends the session. -/
def Executor.carryOut (x : Executor σ) : List Session.Command → Writing σ Summary
  | [] => Session.finish x
  | .write row :: rest => do
    discard (Session.write x row)
    x.carryOut rest
  | .writeAll rows :: rest => do
    discard (Session.writeAll x rows)
    x.carryOut rest
  | .flush :: rest => do
    discard (Session.flush x)
    x.carryOut rest

namespace Appending

open Session Writing

variable {s : Session} {x : Executor σ} {q : Staging} {m : Summary} {sent target : List Row}
  {t : σ × List Handed}

end Appending

namespace Session

variable {s : Session}

end Session

open Session Writing

/-- An executor that takes everything and counts one row for each call. -/
def counting : Executor Unit where
  execute _ := pure (some 1)
  bulkLoad _ := pure 1

/-- Numbered notes that are only added. -/
def notes : Session where
  dialect := Builtin.sqlite.dialect
  table := "Notes"
  columns := [.of "Id" .integer, .of "Text" .string]
  mode := .insert
  search := []
  other := [0, 1]
  batchSize := 499
  maxStaged := 10000
  staging := .empty []
  update := none
  summary := {}

theorem start_notes :
    Session.start Builtin.sqlite.dialect "Notes" [.of "Id" .integer, .of "Text" .string] []
      .insert = .ok notes := by
  have named : Text.isAllBlank "Notes" = false := by decide +kernel
  have checked : checkColumns "Notes" [] [.of "Id" .integer, .of "Text" .string] = .ok () := by
    decide +kernel
  have located : locate "Notes" [.of "Id" .integer, .of "Text" .string] [] [] = .ok [] := rfl
  simp only [Session.start, named, checked, located]
  rfl

/-- Two notes that fill the stage, one that waits, and two that are written together. -/
def jottings : List Command :=
  [.write [.string "1", .string "a"], .write [.int 2, .null], .write [.int 3, .string "c"],
    .writeAll [[.int 4, .int 4], [.int 5, .string "e"]], .flush]

/-- Arrivals that are only added, in a data view. -/
def arrivals : Session where
  dialect := Builtin.dataView.dialect
  table := "Visits"
  columns := [.of "Arrived" .dateTime]
  mode := .insert
  search := []
  other := [0]
  batchSize := 1
  maxStaged := 10000
  staging := .empty []
  update := none
  summary := {}

end SqlScribe

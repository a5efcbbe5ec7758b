import Mathlib.Data.List.Nodup
import SqlScribe.Dialect.Builtin
import SqlScribe.Proofs.Groups
import SqlScribe.Proofs.Writer.Calls

/-!
# Retried flushes

A flush without bulk load is many INSERTs. If one of them fails, those before it have stored their
rows, but all rows stay staged; the next flush sends them again. So rows are stored once exactly
where no failed flush has stored any.
-/

namespace SqlScribe

variable {σ : Type}

/-- The same executor with a record of the rows that were handed to it in calls that succeeded. -/
def Backend.recorded (x : Backend σ) : Backend (σ × List Row) where
  update set keys statement := ExceptT.mk fun (t, log) =>
    let (r, t') := (x.update set keys statement).run.run t
    (r, t', log)
  insert rows statement := ExceptT.mk fun (t, log) =>
    match (x.insert rows statement).run.run t with
    | (.ok n, t') => (.ok n, t', log ++ rows)
    | (.error f, t') => (.error f, t', log)
  bulkLoad load := ExceptT.mk fun (t, log) =>
    match (x.bulkLoad load).run.run t with
    | (.ok n, t') => (.ok n, t', log ++ load.rows)
    | (.error f, t') => (.error f, t', log)

namespace Backend

open Session Writing

variable (x : Backend σ)

theorem ensures_recorded_update (set keys : List Value) (statement : Statement)
    (t : σ × List Row) (P : Except Fault (Option UInt64) → σ × List Row → Prop) :
    (x.recorded.update set keys statement).Ensures t P ↔
      (x.update set keys statement).Ensures t.1 fun r t' => P r (t', t.2) := Iff.rfl

theorem ensures_recorded_insert (rows : List Row) (statement : Statement) (t : σ × List Row)
    (P : Except Fault (Option UInt64) → σ × List Row → Prop) :
    (x.recorded.insert rows statement).Ensures t P ↔
      (x.insert rows statement).Ensures t.1 fun r t' =>
        match r with
        | .ok n => P (.ok n) (t', t.2 ++ rows)
        | .error f => P (.error f) (t', t.2) := by
  have run : (x.recorded.insert rows statement).run.run t =
      match (x.insert rows statement).run.run t.1 with
      | (.ok n, t') => (.ok n, t', t.2 ++ rows)
      | (.error f, t') => (.error f, t', t.2) := rfl
  unfold Answer.Ensures
  rw [run]
  generalize (x.insert rows statement).run.run t.1 = done
  obtain ⟨r, t'⟩ := done
  cases r <;> exact Iff.rfl

theorem ensures_recorded_bulkLoad (load : BulkLoad) (t : σ × List Row)
    (P : Except Fault UInt64 → σ × List Row → Prop) :
    (x.recorded.bulkLoad load).Ensures t P ↔ (x.bulkLoad load).Ensures t.1 fun r t' =>
      match r with
      | .ok n => P (.ok n) (t', t.2 ++ load.rows)
      | .error f => P (.error f) (t', t.2) := by
  have run : (x.recorded.bulkLoad load).run.run t =
      match (x.bulkLoad load).run.run t.1 with
      | (.ok n, t') => (.ok n, t', t.2 ++ load.rows)
      | (.error f, t') => (.error f, t', t.2) := rfl
  unfold Answer.Ensures
  rw [run]
  generalize (x.bulkLoad load).run.run t.1 = done
  obtain ⟨r, t'⟩ := done
  cases r <;> exact Iff.rfl

/-- Batches are stored from the first one on, up to one that fails. -/
theorem insertBatches_sends (s : Session) (total : UInt64) (batches : List (List Row))
    (t : σ × List Row) :
    (x.recorded.insertBatches s total batches).Ensures t fun r t' =>
      ∃ sent, sent <+: batches.flatten ∧ t'.2 = t.2 ++ sent ∧
        ∀ n, r = .ok n → sent = batches.flatten := by
  induction batches generalizing total t with
  | nil => exact ⟨[], List.nil_prefix, (List.append_nil _).symm, fun _ _ => rfl⟩
  | cons batch rest ih =>
    rw [ensures_insertBatches_cons]
    cases Insert.compile s.dialect s.dialect.preferredMode ⟨s.table, s.columns, batch⟩ with
    | error f => exact ⟨[], List.nil_prefix, (List.append_nil _).symm, by simp⟩
    | ok statement =>
      dsimp only
      rw [ensures_recorded_insert, List.flatten_cons]
      apply Answer.ensures_of_forall
      intro r t'
      cases r with
      | error f => exact ⟨[], List.nil_prefix, (List.append_nil _).symm, by simp⟩
      | ok counted =>
        cases counted with
        | none => exact ⟨batch, List.prefix_append _ _, rfl, by simp⟩
        | some n =>
          apply (ih (total + n) (t', t.2 ++ batch)).imp
          rintro r t'' ⟨sent, before, log, all⟩
          refine ⟨batch ++ sent, List.prefix_append_right_inj batch |>.mpr before, ?_, ?_⟩
          · rw [log, List.append_assoc]
          · intro n ended
            rw [all n ended]

/-- A load that succeeds has stored its rows; one that fails has stored some of the first of them,
and none in a bulk load. -/
theorem load_sends (s : Session) (rows : List Row) (t : σ × List Row) :
    (x.recorded.load s rows).Ensures t fun r t' =>
      ∃ sent, sent <+: rows ∧ t'.2 = t.2 ++ sent ∧ (∀ n, r = .ok n → sent = rows) ∧
        ∀ f, r = .error f → s.dialect.features.bulkLoad = true → sent = [] := by
  unfold load
  split
  · rw [ensures_recorded_bulkLoad]
    apply Answer.ensures_of_forall
    intro r t'
    cases r with
    | ok n => exact ⟨rows, List.prefix_refl _, rfl, by simp, by simp⟩
    | error f => exact ⟨[], List.nil_prefix, (List.append_nil _).symm, by simp, by simp⟩
  · rename_i single
    apply (x.insertBatches_sends s 0 (inGroups s.batchSize rows) t).imp
    rintro r t' ⟨sent, before, log, all⟩
    rw [flatten_inGroups] at before all
    exact ⟨sent, before, log, all, fun _ _ bulk => absurd bulk single⟩

/-- What a flush has done to the session and to the rows that the database has received. -/
theorem flush_sends (s : Session) (t : σ × List Row) :
    Ensures x.recorded.flush s t fun r s' t' =>
      ∃ sent, sent <+: s.staging.rows ∧ t'.2 = t.2 ++ sent ∧ s'.dialect = s.dialect ∧
        match r with
        | .ok _ => sent = s.staging.rows ∧ s'.staging.rows = []
        | .error _ => s' = s ∧ (s.dialect.features.bulkLoad = true → sent = []) := by
  rw [ensures_flush]
  split
  · rename_i nothing
    exact ⟨[], List.nil_prefix, (List.append_nil _).symm, rfl, nothing.symm, nothing⟩
  · apply (x.load_sends s s.staging.rows t).imp
    rintro r t' ⟨sent, before, log, all, bulk⟩
    cases r with
    | ok n => exact ⟨sent, before, log, rfl, all n rfl, rfl⟩
    | error f => exact ⟨sent, before, log, rfl, rfl, bulk f rfl⟩

/-- To place a row stores nothing of what is staged, and leaves all of that staged. -/
def Keeps (s : Session) (t : σ × List Row) (s' : Session) (t' : σ × List Row) : Prop :=
  t'.2 = t.2 ∧ s'.dialect = s.dialect ∧ s.staged ≤ s'.staged

theorem preparedUpdate_keeps (s : Session) (t : σ × List Row) :
    Ensures preparedUpdate s t fun _ s' t' => Keeps s t s' t' ∧ s'.staging = s.staging := by
  rw [ensures_preparedUpdate]
  cases s.update with
  | some p => exact ⟨⟨rfl, rfl, Nat.le_refl _⟩, rfl⟩
  | none =>
    dsimp only
    split
    · exact ⟨⟨rfl, rfl, Nat.le_refl _⟩, rfl⟩
    · exact ⟨⟨rfl, rfl, Nat.le_refl _⟩, rfl⟩

theorem runUpdate_keeps (row : Row) (s : Session) (t : σ × List Row) :
    Ensures (x.recorded.runUpdate row) s t fun _ s' t' => Keeps s t s' t' := by
  rw [ensures_runUpdate]
  apply (preparedUpdate_keeps s t).imp
  rintro r s' t' ⟨kept, -⟩
  cases r with
  | error f => exact kept
  | ok p =>
    dsimp only
    split
    · exact kept
    · rw [ensures_recorded_update]
      apply Answer.ensures_of_forall
      intro r t''
      cases r with
      | error f => exact kept
      | ok n => cases n <;> exact kept

theorem place_keeps (row : Row) (s : Session) (t : σ × List Row) :
    Ensures (x.recorded.place row) s t fun _ s' t' => Keeps s t s' t' := by
  have same : Keeps s t s t := ⟨rfl, rfl, Nat.le_refl _⟩
  rw [ensures_place]
  split
  · exact same
  · cases s.mode with
    | insert =>
      dsimp only
      rw [ensures_placeInsert]
      cases s.prepareRow row with
      | error f => exact same
      | ok new => exact ⟨rfl, rfl, by simp [staged, Staging.push]⟩
    | update =>
      dsimp only
      rw [ensures_placeUpdate]
      apply (x.runUpdate_keeps row s t).imp
      intro r s' t' kept
      cases r with
      | error f => exact kept
      | ok n =>
        dsimp only
        split <;> exact kept
    | insertOrUpdate =>
      simp only [ensures_placeUpsert]
      split
      · exact same
      · split
        · exact ⟨rfl, rfl, by simp [staged, Staging.overwrite]⟩
        · apply (x.runUpdate_keeps row s t).imp
          intro r s' t' kept
          cases r with
          | error f => exact kept
          | ok n =>
            dsimp only
            split
            · exact kept
            · refine ⟨kept.1, kept.2.1, Nat.le_trans kept.2.2 ?_⟩
              simp [staged, Staging.push]

end Backend

/-- What has become of a session and its database. Staged rows are numbered as they come. -/
structure History (σ : Type) where
  session : Session
  /-- The state of the executor and the rows that the database has received. -/
  database : σ × List Row
  /-- The rows received, each with the number of the staged row that it was. -/
  stored : List (Row × Nat)
  /-- The rows of the flushes that succeeded, as they were staged in the end. -/
  flushed : List Row
  /-- The numbers of rows that were stored by flushes that failed. -/
  stray : List Nat

namespace History

open Session Writing

variable (x : Backend σ)

/-- Nothing is written yet. -/
def opened (s : Session) (t : σ) : History σ := ⟨s, (t, []), [], [], []⟩

/-- What a flush that ended with an answer or a fault has added. Whatever it stored came from the
first of the staged rows on. -/
def afterFlush (h : History σ) (r : Except Fault UInt64) (s : Session) (t : σ × List Row) :
    History σ :=
  let sent := (t.2.drop h.database.2.length).zipIdx h.flushed.length
  match r with
  | .ok _ => ⟨s, t, h.stored ++ sent, h.flushed ++ h.session.staging.rows, h.stray⟩
  | .error _ => ⟨s, t, h.stored ++ sent, h.flushed, h.stray ++ sent.map Prod.snd⟩

/-- Flushes once, successfully or not. -/
def flush (h : History σ) : History σ :=
  let run := (x.recorded.flush.run.run h.session).run h.database
  h.afterFlush run.1.1 run.1.2 run.2

/-- Writes a row, successfully or not, with the flush that follows if too many rows are staged. -/
def write (h : History σ) (row : Row) : History σ :=
  let run := ((x.recorded.place row).run.run h.session).run h.database
  let placed : History σ := { h with session := run.1.2, database := run.2 }
  match run.1.1 with
  | .ok .staged =>
    if placed.session.maxStaged ≤ placed.session.staged then placed.flush x else placed
  | _ => placed

theorem flush_runs (h : History σ) :
    Ensures x.recorded.flush h.session h.database fun _ s' t' =>
      (h.flush x).session = s' ∧ (h.flush x).database = t' := by
  unfold Ensures flush afterFlush
  dsimp only
  split <;> exact ⟨rfl, rfl⟩

/-- The history of a write is that of the write itself. -/
theorem write_runs (h : History σ) (row : Row) :
    Ensures (x.recorded.write row) h.session h.database fun _ s' t' =>
      (h.write x row).session = s' ∧ (h.write x row).database = t' := by
  rw [Backend.ensures_write]
  have ran : Ensures (x.recorded.place row) h.session h.database fun r s' t' =>
      ((x.recorded.place row).run.run h.session).run h.database = ((r, s'), t') := rfl
  apply ran.imp
  intro r s' t' run
  unfold write
  rw [run]
  cases r with
  | error f => exact ⟨rfl, rfl⟩
  | ok outcome =>
    cases outcome with
    | staged =>
      dsimp only
      rw [Backend.ensures_relieve]
      split
      · exact flush_runs x { h with session := s', database := t' }
      · exact ⟨rfl, rfl⟩
    | merged => exact ⟨rfl, rfl⟩
    | updated n => exact ⟨rfl, rfl⟩
    | unmatched => exact ⟨rfl, rfl⟩

/-- Histories of a session that is written to and flushed in any order, whether or not it goes
well. -/
inductive Reachable (s : Session) (t : σ) : History σ → Prop
  | opened : Reachable s t (opened s t)
  | write {h : History σ} (row : Row) (before : Reachable s t h) : Reachable s t (h.write x row)
  | flush {h : History σ} (before : Reachable s t h) : Reachable s t (h.flush x)

/-- Every stored row is one of a successful flush or a stray one. -/
structure Accounted (s : Session) (h : History σ) : Prop where
  dialect : h.session.dialect = s.dialect
  received : h.database.2 = h.stored.map Prod.fst
  counts : ∀ i, (h.stored.map Prod.snd).count i =
    h.stray.count i + if i < h.flushed.length then 1 else 0
  length : h.stored.length = h.stray.length + h.flushed.length
  strays : ∀ i ∈ h.stray, i < h.flushed.length + h.session.staged
  whole : h.stray = [] → h.database.2 = h.flushed
  bulk : s.dialect.features.bulkLoad = true → h.stray = []

namespace Accounted

variable {x} {s : Session} {h : History σ}

theorem of_opened (s : Session) (t : σ) : (opened s t).Accounted s where
  dialect := rfl
  received := rfl
  counts i := by simp [opened]
  length := rfl
  strays i member := by cases member
  whole _ := rfl
  bulk _ := rfl

/-- To place a row is to stage it, or to change staged or stored ones. -/
theorem place (account : h.Accounted s) {s' : Session} {t' : σ × List Row}
    (kept : Backend.Keeps h.session h.database s' t') :
    ({ h with session := s', database := t' } : History σ).Accounted s := by
  obtain ⟨log, dialect, more⟩ := kept
  constructor
  · exact dialect.trans account.dialect
  · exact log.trans account.received
  · exact account.counts
  · exact account.length
  · intro i member
    exact Nat.lt_of_lt_of_le (account.strays i member) (Nat.add_le_add_left more _)
  · intro none_stray
    exact log.trans (account.whole none_stray)
  · exact account.bulk

/-- The numbers of rows that were just sent. -/
theorem numbers (sent : List Row) (first : Nat) :
    (sent.zipIdx first).map Prod.snd = List.range' first sent.length :=
  List.zipIdx_map_snd first sent

/-- What was received before and what a flush has sent are the rows stored by then. -/
theorem received_append (account : h.Accounted s) {sent received : List Row}
    (log : received = h.database.2 ++ sent) :
    received = (h.stored ++ sent.zipIdx h.flushed.length).map Prod.fst := by
  rw [log, account.received, List.map_append, List.zipIdx_map_fst]

/-- A flush that succeeds has stored all that was staged, each row with the next number. -/
theorem flushed (account : h.Accounted s) {s' : Session} {t' : σ × List Row}
    (log : t'.2 = h.database.2 ++ h.session.staging.rows)
    (dialect : s'.dialect = h.session.dialect) :
    Accounted s ⟨s', t', h.stored ++ h.session.staging.rows.zipIdx h.flushed.length,
      h.flushed ++ h.session.staging.rows, h.stray⟩ := by
  constructor
  · exact dialect.trans account.dialect
  · exact account.received_append log
  · intro i
    rw [List.map_append, List.count_append, account.counts, numbers, List.count_range_1',
      List.length_append]
    dsimp only
    split <;> split <;> split <;> omega
  · simp only [List.length_append, List.length_zipIdx, account.length]
    omega
  · intro i member
    have := account.strays i member
    simp only [List.length_append]
    unfold staged at this
    omega
  · intro none_stray
    rw [log, account.whole none_stray]
  · exact account.bulk

/-- A flush that fails leaves the rows that it has stored as stray ones. -/
theorem strayed (account : h.Accounted s) {sent : List Row} {t' : σ × List Row}
    (log : t'.2 = h.database.2 ++ sent) (before : sent <+: h.session.staging.rows)
    (bulk : h.session.dialect.features.bulkLoad = true → sent = []) :
    Accounted s ⟨h.session, t', h.stored ++ sent.zipIdx h.flushed.length, h.flushed,
      h.stray ++ (sent.zipIdx h.flushed.length).map Prod.snd⟩ := by
  constructor
  · exact account.dialect
  · exact account.received_append log
  · intro i
    rw [List.map_append, List.count_append, account.counts, List.count_append]
    dsimp only
    omega
  · simp only [List.length_append, List.length_zipIdx, List.length_map, account.length]
    omega
  · intro i member
    obtain old | new := List.mem_append.mp member
    · exact account.strays i old
    · rw [numbers, List.mem_range'_1] at new
      have := before.length_le
      unfold staged
      dsimp only
      omega
  · intro none_stray
    obtain ⟨old, new⟩ := List.append_eq_nil_iff.mp none_stray
    have none_sent : sent = [] := by
      rw [numbers] at new
      simpa using new
    rw [log, none_sent, List.append_nil, account.whole old]
  · intro bulk_load
    rw [bulk (by rw [account.dialect]; exact bulk_load), account.bulk bulk_load]
    rfl

theorem flush (account : h.Accounted s) : (h.flush x).Accounted s := by
  have sends := Backend.flush_sends x h.session h.database
  apply sends.imp (Q := fun r s' t' => (h.afterFlush r s' t').Accounted s)
  rintro r s' t' ⟨sent, before, log, dialect, ended⟩
  have news : t'.2.drop h.database.2.length = sent := by
    rw [log, List.drop_left]
  cases r with
  | ok n =>
    obtain ⟨rfl, -⟩ := ended
    simp only [afterFlush, news]
    exact account.flushed log dialect
  | error f =>
    obtain ⟨rfl, bulk⟩ := ended
    simp only [afterFlush, news]
    exact account.strayed log before bulk

theorem write (account : h.Accounted s) (row : Row) : (h.write x row).Accounted s := by
  have kept := Backend.place_keeps x row h.session h.database
  have placed : ({ h with
      session := (((x.recorded.place row).run.run h.session).run h.database).1.2
      database := (((x.recorded.place row).run.run h.session).run h.database).2 } :
        History σ).Accounted s := account.place kept
  unfold History.write
  dsimp only
  split
  · split
    · exact placed.flush
    · exact placed
  · exact placed

end Accounted

theorem accounted {x : Backend σ} {s : Session} {t : σ} {h : History σ}
    (reach : Reachable x s t h) : h.Accounted s := by
  induction reach with
  | opened => exact Accounted.of_opened s t
  | write row _ ih => exact ih.write row
  | flush _ ih => exact ih.flush

namespace Accounted

variable {s : Session} {h : History σ}

/-- No row is stored twice if and only if no stray row is, neither by flushes that failed nor by a
later one that succeeded. -/
theorem nodup_iff (account : h.Accounted s) :
    (h.stored.map Prod.snd).Nodup ↔ h.stray.Nodup ∧ ∀ i ∈ h.stray, h.flushed.length ≤ i := by
  simp only [List.nodup_iff_count_le_one, account.counts]
  constructor
  · intro single
    refine ⟨fun i => Nat.le_trans (Nat.le_add_right _ _) (single i), ?_⟩
    intro i member
    have some_stray := List.count_pos_iff.mpr member
    have := single i
    -- A stray row below that number was sent once more by the flush that succeeded.
    by_contra early
    rw [if_pos (by omega)] at this
    omega
  · rintro ⟨single, late⟩ i
    by_cases member : i ∈ h.stray
    · have := single i
      have := late i member
      rw [if_neg (by omega)]
      omega
    · rw [List.count_eq_zero.mpr member]
      split <;> omega

/-- The database has received what was flushed, and nothing else, if there are no stray rows. -/
theorem received_iff (account : h.Accounted s) : h.database.2 = h.flushed ↔ h.stray = [] := by
  constructor
  · intro whole
    have := congrArg List.length whole
    rw [account.received, List.length_map, account.length] at this
    exact List.length_eq_zero_iff.mp (by omega)
  · exact account.whole

end Accounted

/-- Among all rows that were staged, none is stored twice if and only if no stray row is stored
twice or flushed later; and once nothing is staged any more, the database has received every row
once and in its final form if and only if there are no stray rows. There are none where rows are
loaded in bulk. -/
theorem stored_once_iff {x : Backend σ} {s : Session} {t : σ} {h : History σ}
    (reach : Reachable x s t h) :
    ((h.stored.map Prod.snd).Nodup ↔
      h.stray.Nodup ∧ ∀ i ∈ h.stray, h.flushed.length ≤ i) ∧
    (h.session.staging.rows = [] →
      ((h.stored.map Prod.snd).Nodup ↔ h.stray = []) ∧
      (h.database.2 = h.flushed ↔ h.stray = [])) ∧
    (s.dialect.features.bulkLoad = true → h.stray = []) := by
  have account := accounted reach
  refine ⟨account.nodup_iff, fun nothing => ⟨?_, account.received_iff⟩, account.bulk⟩
  have staged_none : h.session.staged = 0 := by
    unfold Session.staged
    rw [nothing, List.length_nil]
  rw [account.nodup_iff]
  constructor
  · rintro ⟨-, late⟩
    apply List.eq_nil_iff_forall_not_mem.mpr
    intro i member
    have := account.strays i member
    have := late i member
    omega
  · intro none_stray
    rw [none_stray]
    exact ⟨List.nodup_nil, fun i member => by cases member⟩

end History

/-- A list of numbers in a database without bulk load, one number in each INSERT. -/
def numbers : Session where
  dialect := Builtin.sqlite.dialect
  table := "Numbers"
  columns := [.of "Id" .integer]
  mode := .insert
  search := []
  other := [0]
  batchSize := 1
  maxStaged := 10000
  staging := .empty []
  update := none
  summary := {}

theorem start_numbers :
    (Session.start Builtin.sqlite.dialect "Numbers" [.of "Id" .integer] [] .insert).map
      (·.withBatchSize 1) = .ok numbers := by
  have named : Text.isAllBlank "Numbers" = false := by decide +kernel
  have checked : Session.checkColumns "Numbers" [] [.of "Id" .integer] = .ok () := by
    decide +kernel
  simp only [Session.start, named, checked]
  rfl

/-- A connection that is lost in the call of one number, and stands again for the next one. -/
def interrupted (call : Nat) : Executor Nat where
  execute _ := ExceptT.mk fun n =>
    (if n = call then .error (.database "connection reset") else .ok (some 1), n + 1)
  bulkLoad load := ExceptT.mk fun n => (.ok (.ofNat load.rows.length), n + 1)

namespace History

/-- Two numbers, flushed twice. -/
def retried (call : Nat) : History Nat :=
  let x := (interrupted call).backend
  ((((opened numbers 0).write x [.int 1]).write x [.int 2]).flush x).flush x

theorem reachable_retried (call : Nat) :
    Reachable (interrupted call).backend numbers 0 (retried call) :=
  .flush (.flush (.write _ (.write _ .opened)))

/-- The first INSERT fails, so the second flush stores both rows, each once. -/
theorem stored_once_retried :
    (retried 0).database.2 = [[.int 1], [.int 2]] ∧ ((retried 0).stored.map Prod.snd).Nodup := by
  have settled : (retried 0).session.staging.rows = [] := by decide +kernel
  have none_stray : (retried 0).stray = [] := by decide +kernel
  have flushed : (retried 0).flushed = [[.int 1], [.int 2]] := by decide +kernel
  obtain ⟨-, exact, -⟩ := stored_once_iff (reachable_retried 0)
  obtain ⟨once, whole⟩ := exact settled
  exact ⟨(whole.mpr none_stray).trans flushed, once.mpr none_stray⟩

/-- The second INSERT fails, so the second flush stores the first row again. -/
theorem stored_twice :
    (retried 1).session.staging.rows = [] ∧
    (retried 1).database.2 = [[.int 1], [.int 1], [.int 2]] ∧
    ¬ ((retried 1).stored.map Prod.snd).Nodup := by
  decide +kernel

end History

end SqlScribe

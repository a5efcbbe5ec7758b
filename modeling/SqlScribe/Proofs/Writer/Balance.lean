import SqlScribe.Proofs.Writer.Appending
import SqlScribe.Proofs.Writer.Outcomes
import SqlScribe.Proofs.Writer.Upsert

/-!
# Counted rows

The counters of a session account for every row that it has taken, after every call and whether the
calls succeed or not: a row is merged, updates stored rows, is unmatched, or is to be appended, and
of the latter those that are no longer staged are counted as inserted. All that the executor has to
do is to count the rows that it appends.

A row that is one too many sets off a flush, and it stays staged if the dialect refuses to write the
INSERT of that flush. Its write then ends with a fault although the row has been taken.
-/

namespace SqlScribe

open Session Writing

variable {σ α β : Type}

/-- What became of a row that a session has taken. -/
inductive Fate
  | written (outcome : WriteOutcome)
  /-- The row was handed over directly. -/
  | loaded
  /-- The row was staged, but the flush that followed has failed. -/
  | stuck
deriving DecidableEq

namespace Fate

/-- The number of stored rows that a row was written to. -/
def updates : Fate → Nat
  | written (.updated n) => n.toNat
  | _ => 0

def isUpdate : Fate → Bool
  | written (.updated _) => true
  | _ => false

/-- Every row has one fate. -/
theorem length_eq (fates : List Fate) :
    fates.length = fates.count (.written .merged) + fates.countP isUpdate +
      fates.count (.written .unmatched) + (fates.count (.written .staged) + fates.count .loaded +
        fates.count .stuck) := by
  induction fates with
  | nil => rfl
  | cons fate rest ih =>
    rw [List.length_cons, ih]
    cases fate with
    | written outcome => cases outcome <;> simp [isUpdate, List.countP_cons] <;> omega
    | loaded => simp [isUpdate]; omega
    | stuck => simp [isUpdate]; omega

end Fate

/-- The counters, and the number of staged rows, agree with what became of the rows. -/
structure Summary.Accounts (m : Summary) (fates : List Fate) (staged : Nat) : Prop where
  merged : m.merged = .ofNat (fates.count (.written .merged))
  updated : m.updated = .ofNat (fates.map Fate.updates).sum
  unmatched : m.unmatched = .ofNat (fates.count (.written .unmatched))
  inserted : ∃ n, m.inserted = .ofNat n ∧ n + staged =
    fates.count (.written .staged) + fates.count .loaded + fates.count .stuck

namespace Summary.Accounts

variable {m : Summary} {fates : List Fate} {staged : Nat}

theorem nothing : ({} : Summary).Accounts [] 0 := ⟨rfl, rfl, rfl, 0, rfl, rfl⟩

/-- The counters keep up with further fates if they grow by what these count. -/
theorem append (h : m.Accounts fates staged) {m' : Summary} {more : List Fate} {staged' : Nat}
    (merged : m'.merged = m.merged + .ofNat (more.count (.written .merged)))
    (updated : m'.updated = m.updated + .ofNat (more.map Fate.updates).sum)
    (unmatched : m'.unmatched = m.unmatched + .ofNat (more.count (.written .unmatched)))
    (inserted : ∃ n, m'.inserted = m.inserted + .ofNat n ∧ n + staged' = staged +
      (more.count (.written .staged) + more.count .loaded + more.count .stuck)) :
    m'.Accounts (fates ++ more) staged' := by
  obtain ⟨before, counted, total⟩ := h.inserted
  obtain ⟨n, grown, further⟩ := inserted
  constructor
  · rw [merged, h.merged, ← UInt64.ofNat_add, List.count_append]
  · rw [updated, h.updated, ← UInt64.ofNat_add, List.map_append, List.sum_append]
  · rw [unmatched, h.unmatched, ← UInt64.ofNat_add, List.count_append]
  · refine ⟨before + n, ?_, ?_⟩
    · rw [grown, counted, ← UInt64.ofNat_add]
    · simp only [List.count_append]
      omega

theorem merge (h : m.Accounts fates staged) :
    Summary.Accounts { m with merged := m.merged + 1 } (fates ++ [.written .merged]) staged :=
  h.append rfl (by simp [Fate.updates]) (by simp) ⟨0, by simp⟩

theorem update (h : m.Accounts fates staged) (rows : UInt64) :
    Summary.Accounts { m with updated := m.updated + rows } (fates ++ [.written (.updated rows)])
      staged :=
  h.append (by simp) (by simp [Fate.updates]) (by simp) ⟨0, by simp⟩

theorem miss (h : m.Accounts fates staged) :
    Summary.Accounts { m with unmatched := m.unmatched + 1 } (fates ++ [.written .unmatched])
      staged :=
  h.append (by simp) (by simp [Fate.updates]) rfl ⟨0, by simp⟩

theorem stage (h : m.Accounts fates staged) :
    m.Accounts (fates ++ [.written .staged]) (staged + 1) :=
  h.append (by simp) (by simp [Fate.updates]) (by simp) ⟨0, by simp⟩

/-- A row is staged although its write fails. -/
theorem strand (h : m.Accounts fates staged) : m.Accounts (fates ++ [.stuck]) (staged + 1) :=
  h.append (by simp) (by simp [Fate.updates]) (by simp) ⟨0, by simp⟩

/-- What was staged is inserted. -/
theorem flush (h : m.Accounts fates staged) :
    Summary.Accounts
      { m with inserted := m.inserted + .ofNat staged, flushes := m.flushes + 1 } fates 0 := by
  rw [← List.append_nil fates]
  exact h.append (by simp) (by simp) (by simp) ⟨staged, by simp⟩

theorem load (h : m.Accounts fates staged) (rows : Nat) :
    Summary.Accounts
      { m with inserted := m.inserted + .ofNat rows, flushes := m.flushes + 1 }
      (fates ++ List.replicate rows .loaded) staged :=
  h.append (by simp [List.count_replicate]) (by simp [Fate.updates])
    (by simp [List.count_replicate]) ⟨rows, rfl, by simp [List.count_replicate]; omega⟩

end Summary.Accounts

/-- The executor appends every row that the session hands over, and counts them. What its UPDATE
does is left open. -/
structure Backend.Reliable (x : Backend σ) (s : Session) : Prop where
  insert : s.dialect.features.bulkLoad = false → ∀ rows statement t,
    s.batchInsert rows = .ok statement → (x.insert rows statement).Ensures t fun r _ =>
      r = .ok (some (.ofNat rows.length))
  bulkLoad : s.dialect.features.bulkLoad = true → ∀ load t,
    (x.bulkLoad load).Ensures t fun r _ => r = .ok (.ofNat load.rows.length)

namespace Backend.Reliable

variable {x : Backend σ} {s : Session}

theorem holding (reliable : x.Reliable s) (q : Staging) (u : Option PreparedUpdate) (m : Summary) :
    x.Reliable (s.holding q u m) := ⟨reliable.insert, reliable.bulkLoad⟩

theorem insertBatches_counts (reliable : x.Reliable s)
    (single : s.dialect.features.bulkLoad = false) (total : Nat) (batches : List (List Row))
    (t : σ) :
    (x.insertBatches s (.ofNat total) batches).Ensures t fun r _ =>
      r = .ok (.ofNat (total + batches.flatten.length)) ∨
        ∃ f, r = .error f ∧ ∃ batch ∈ batches, s.batchInsert batch = .error f := by
  induction batches generalizing total t with
  | nil => exact .inl rfl
  | cons batch rest ih =>
    rw [ensures_insertBatches_cons]
    cases compiled :
        Insert.compile s.dialect s.dialect.preferredMode ⟨s.table, s.columns, batch⟩ with
    | error f => exact .inr ⟨f, rfl, batch, List.mem_cons_self, compiled⟩
    | ok statement =>
      apply (reliable.insert single batch statement t compiled).imp
      rintro r t' rfl
      have sum : UInt64.ofNat total + .ofNat batch.length = .ofNat (total + batch.length) :=
        (UInt64.ofNat_add total batch.length).symm
      dsimp only
      rw [sum, List.flatten_cons, List.length_append, ← Nat.add_assoc]
      apply (ih (total + batch.length) t').imp
      rintro r t'' (counted | ⟨f, rfl, later, member, refused⟩)
      · exact .inl counted
      · exact .inr ⟨f, rfl, later, List.mem_cons_of_mem batch member, refused⟩

/-- All rows are counted, unless the dialect does not write an INSERT. -/
theorem load_counts (reliable : x.Reliable s) (rows : List Row) (t : σ) :
    (x.load s rows).Ensures t fun r _ => r = .ok (.ofNat rows.length) ∨
      ∃ f, r = .error f ∧ s.Rejects rows f := by
  unfold load
  by_cases bulk : s.dialect.features.bulkLoad = true
  · rw [if_pos bulk]
    apply (reliable.bulkLoad bulk ⟨s.table, s.columns, rows, !s.search.isEmpty⟩ t).imp
    intro r t' counted
    exact .inl counted
  · rw [if_neg bulk]
    have single := Bool.eq_false_iff.mpr bulk
    apply (reliable.insertBatches_counts single 0 (inGroups s.batchSize rows) t).imp
    rintro r t' (counted | ⟨f, rfl, refused⟩)
    · rw [flatten_inGroups, Nat.zero_add] at counted
      exact .inl counted
    · exact .inr ⟨f, rfl, single, refused⟩

end Backend.Reliable

namespace Session

variable {s s' s'' : Session}

theorem staged_push (s : Session) (new : Row) (u : Option PreparedUpdate) (m : Summary) :
    (s.holding (s.staging.push new) u m).staged = s.staged + 1 :=
  List.length_append

/-- What a call that was given some rows has done: the rows that it has taken have met a fate, and
the counters agree with that if they agreed before. It has taken all of them unless it ends with a
fault, and rows are stuck only if the dialect has refused an INSERT of what is staged. -/
structure Takes (s : Session) (rows : List Row) (r : Except Fault α) (entries : List (Row × Fate))
    (s' : Session) : Prop where
  holds : ∃ q u m, s' = s.holding q u m
  accounts : ∀ fates, s.summary.Accounts fates s.staged →
    s'.summary.Accounts (fates ++ entries.map Prod.snd) s'.staged
  taken : (entries.map Prod.fst).Sublist rows
  whole : ∀ a, r = .ok a → entries.map Prod.fst = rows
  stuck : ∀ row, (row, Fate.stuck) ∈ entries → ∃ f, r = .error f ∧ s'.Rejects s'.staging.rows f

namespace Takes

variable {rows more : List Row} {r : Except Fault α} {entries later : List (Row × Fate)}

theorem nothing (s : Session) (r : Except Fault α) : s.Takes [] r [] s where
  holds := ⟨s.staging, s.update, s.summary, rfl⟩
  accounts fates before := by simpa using before
  taken := .slnil
  whole _ _ := rfl
  stuck _ member := by cases member

/-- The UPDATE may have been prepared before a row was refused. -/
theorem refused (s : Session) (rows : List Row) (f : Fault) (u : Option PreparedUpdate) :
    s.Takes rows (.error f : Except Fault α) [] (s.holding s.staging u s.summary) where
  holds := ⟨s.staging, u, s.summary, rfl⟩
  accounts fates before := (List.append_nil fates).symm ▸ before
  taken := List.nil_sublist rows
  whole _ ended := by cases ended
  stuck _ member := by cases member

theorem one {row : Row} {outcome : WriteOutcome} {q : Staging} {u : Option PreparedUpdate}
    {m : Summary} (same : s' = s.holding q u m)
    (accounts : ∀ fates, s.summary.Accounts fates s.staged →
      m.Accounts (fates ++ [.written outcome]) q.rows.length) :
    s.Takes [row] (.ok outcome) [(row, .written outcome)] s' := by
  subst same
  exact ⟨⟨q, u, m, rfl⟩, accounts, .refl _, fun _ _ => rfl, by simp⟩

/-- A row that was pushed stays staged if its flush is refused. -/
theorem stranded {row new : Row} {u : Option PreparedUpdate} {f : Fault}
    (rejects : (s.holding (s.staging.push new) u s.summary).Rejects (s.staging.push new).rows f) :
    s.Takes [row] (.error f : Except Fault α) [(row, .stuck)]
      (s.holding (s.staging.push new) u s.summary) where
  holds := ⟨s.staging.push new, u, s.summary, rfl⟩
  accounts fates before := by
    rw [staged_push]
    exact before.strand
  taken := .refl _
  whole _ ended := by cases ended
  stuck _ _ := ⟨f, rfl, rejects⟩

theorem answered {a : α} (h : s.Takes rows (.ok a) entries s') (b : β) :
    s.Takes rows (.ok b) entries s' where
  holds := h.holds
  accounts := h.accounts
  taken := h.taken
  whole _ _ := h.whole a rfl
  stuck row member := by
    obtain ⟨_, ⟨⟩, -⟩ := h.stuck row member

theorem loaded (s : Session) (rows : List Row) (a : α) :
    s.Takes rows (.ok a) (rows.map fun row => (row, .loaded))
      (s.countLoad (.ofNat rows.length)) := by
  have given : (rows.map fun row => (row, Fate.loaded)).map Prod.fst = rows := by
    simp [Function.comp_def]
  have fates : (rows.map fun row => (row, Fate.loaded)).map Prod.snd =
      List.replicate rows.length .loaded := by
    simp [Function.comp_def]
  constructor
  · exact ⟨s.staging, s.update, _, rfl⟩
  · intro before accounts
    rw [fates]
    exact accounts.load rows.length
  · rw [given]
  · exact fun _ _ => given
  · intro row member
    obtain ⟨_, -, same⟩ := List.mem_map.mp member
    cases same

/-- The executor does not change with what is staged and counted. -/
theorem reliable (h : s.Takes rows r entries s') {x : Backend σ} (reliable : x.Reliable s) :
    x.Reliable s' := by
  obtain ⟨q, u, m, rfl⟩ := h.holds
  exact reliable.holding q u m

/-- A call that ends with a fault need not have come to its rows. -/
theorem stopped {f : Fault} (h : s.Takes rows (.error f : Except Fault α) entries s')
    (more : List Row) : s.Takes (rows ++ more) (.error f : Except Fault β) entries s' where
  holds := h.holds
  accounts := h.accounts
  taken := h.taken.trans (List.sublist_append_left rows more)
  whole _ ended := by cases ended
  stuck row member := by
    obtain ⟨_, ⟨⟩, rejects⟩ := h.stuck row member
    exact ⟨f, rfl, rejects⟩

/-- After a call that ends well more rows are taken. -/
theorem append {a : α} {r : Except Fault β} (h : s.Takes rows (.ok a) entries s')
    (h' : s'.Takes more r later s'') : s.Takes (rows ++ more) r (entries ++ later) s'' := by
  obtain ⟨q, u, m, rfl⟩ := h.holds
  obtain ⟨q', u', m', rfl⟩ := h'.holds
  constructor
  · exact ⟨q', u', m', rfl⟩
  · intro fates before
    have both := h'.accounts _ (h.accounts fates before)
    rwa [List.append_assoc, ← List.map_append] at both
  · rw [List.map_append]
    exact h.taken.append h'.taken
  · intro b ended
    rw [List.map_append, h.whole a rfl, h'.whole b ended]
  · intro row member
    obtain first | second := List.mem_append.mp member
    · obtain ⟨_, ⟨⟩, -⟩ := h.stuck row first
    · exact h'.stuck row second

end Takes

/-- What becomes of a row whose write has ended. -/
def entriesOf (s : Session) (row : Row) (r : Except Fault WriteOutcome) (s' : Session) :
    List (Row × Fate) :=
  match r with
  | .ok outcome => [(row, .written outcome)]
  | .error _ => if s.staged < s'.staged then [(row, .stuck)] else []

end Session

namespace Backend

variable {x : Backend σ}

/-- A flush leaves nothing staged, or everything. -/
theorem flush_balances {s : Session} (reliable : x.Reliable s) (t : σ) :
    Ensures x.flush s t fun r s' _ =>
      (∃ n, r = .ok n ∧ s'.staged = 0 ∧ s.Takes [] r [] s') ∨
        ∃ f, r = .error f ∧ s' = s ∧ s.Rejects s.staging.rows f := by
  rw [ensures_flush]
  by_cases nothing : s.staging.rows = []
  · rw [if_pos nothing]
    exact .inl ⟨0, rfl, by simp [staged, nothing], .nothing s _⟩
  · rw [if_neg nothing]
    apply (reliable.load_counts s.staging.rows t).imp
    rintro r t' (rfl | ⟨f, rfl, rejects⟩)
    · refine .inl ⟨_, rfl, rfl, ?_⟩
      constructor
      · exact ⟨_, s.update, _, rfl⟩
      · intro fates before
        rw [List.map_nil, List.append_nil]
        exact before.flush
      · exact .slnil
      · exact fun _ _ => rfl
      · intro _ member
        cases member
    · exact .inr ⟨f, rfl, rfl, rejects⟩

theorem flush_takes {s : Session} (reliable : x.Reliable s) (t : σ) :
    Ensures x.flush s t fun r s' _ => s.Takes [] r [] s' := by
  apply (flush_balances reliable t).imp
  rintro r s' t' (⟨n, rfl, -, flushed⟩ | ⟨f, rfl, rfl, -⟩)
  · exact flushed
  · exact .nothing s' _

/-- The row has its fate, and it is stuck if the flush that it sets off is refused. -/
theorem write_takes {s : Session} (reliable : x.Reliable s) (row : Row) (t : σ) :
    Ensures (x.write row) s t fun r s' _ => s.Takes [row] r (s.entriesOf row r s') s' := by
  rw [ensures_write]
  apply (x.place_places row s t).imp
  intro r full t' placed
  cases placed with
  | refused f u =>
    have unchanged : s.entriesOf row (.error f) (s.holding s.staging u s.summary) = [] :=
      if_neg (Nat.lt_irrefl s.staged)
    dsimp only
    rw [unchanged]
    exact .refused s [row] f u
  | merged mode prepared found =>
    refine .one (q := s.staging.overwrite _ s.other _) rfl fun fates before => ?_
    rw [Staging.overwrite, List.length_modify]
    exact before.merge
  | updated n u mode something => exact .one rfl fun fates before => before.update n
  | unmatched u mode => exact .one rfl fun fates before => before.miss
  | @staged new u mode checked prepared fresh =>
    have longer := s.staged_push new u s.summary
    have taken : s.Takes [row] (.ok WriteOutcome.staged) [(row, .written .staged)]
        (s.holding (s.staging.push new) u s.summary) := by
      refine .one rfl fun fates before => ?_
      have counted := before.stage
      rw [← longer] at counted
      exact counted
    dsimp only
    rw [ensures_relieve]
    split
    · apply (flush_balances (reliable.holding _ u _) t').imp
      rintro r s' t'' (⟨n, rfl, -, flushed⟩ | ⟨f, rfl, rfl, rejects⟩)
      · exact taken.append (flushed.answered WriteOutcome.staged)
      · have grown : s.entriesOf row (.error f) (s.holding (s.staging.push new) u s.summary) =
            [(row, .stuck)] := if_pos (longer ▸ Nat.lt_succ_self s.staged)
        dsimp only [Except.map]
        rw [grown]
        exact .stranded rejects
    · exact taken

theorem ensures_writeEach_cons (count : UInt64) (row : Row) (rest : List Row) (s : Session) (t : σ)
    (P : Except Fault UInt64 → Session → σ → Prop) :
    Ensures (x.writeEach count (row :: rest)) s t P ↔ Ensures (x.write row) s t fun r s' t' =>
      match r with
      | .error e => P (.error e) s' t'
      | .ok _ => Ensures (x.writeEach (count + 1) rest) s' t' P := by
  simp only [writeEach, ensures_bind, ensures_discard]
  apply ensures_congr
  intro r s' t'
  cases r <;> exact Iff.rfl

/-- A session that does not only insert writes many rows one by one. -/
theorem ensures_writeAll_each {s : Session} (updates : s.mode ≠ .insert) (rows : List Row) (t : σ)
    (P : Except Fault UInt64 → Session → σ → Prop) :
    Ensures (x.writeAll rows) s t P ↔ Ensures (x.writeEach 0 rows) s t P := by
  simp only [writeAll, ensures_bind, ensures_get]
  rw [if_pos updates]

/-- What becomes of rows that are written one by one, up to the first whose write ends with a
fault. -/
def entriesOfEach (x : Backend σ) (s : Session) (t : σ) : List Row → List (Row × Fate)
  | [] => []
  | row :: rest =>
    let run := ((x.write row).run.run s).run t
    s.entriesOf row run.1.1 run.1.2 ++
      match run.1.1 with
      | .ok _ => x.entriesOfEach run.1.2 run.2 rest
      | .error _ => []

/-- What becomes of rows that are written together. -/
def entriesOfAll (x : Backend σ) (s : Session) (t : σ) (rows : List Row) : List (Row × Fate) :=
  if s.mode = .insert then
    match (((x.writeAll rows).run.run s).run t).1.1 with
    | .ok _ => rows.map fun row => (row, .loaded)
    | .error _ => []
  else x.entriesOfEach s t rows

theorem writeEach_takes {s : Session} (reliable : x.Reliable s) (count : UInt64)
    (rows : List Row) (t : σ) :
    Ensures (x.writeEach count rows) s t fun r s' _ =>
      s.Takes rows r (x.entriesOfEach s t rows) s' := by
  induction rows generalizing count s t with
  | nil => exact .nothing s _
  | cons row rest ih =>
    have first : Ensures (x.write row) s t fun r s' t' =>
        ((x.write row).run.run s).run t = ((r, s'), t') ∧
          s.Takes [row] r (s.entriesOf row r s') s' := ⟨rfl, write_takes reliable row t⟩
    rw [ensures_writeEach_cons]
    apply first.imp
    rintro r s' t' ⟨ran, taken⟩
    rw [entriesOfEach, ran]
    cases r with
    | error f =>
      dsimp only
      rw [List.append_nil]
      exact taken.stopped rest
    | ok outcome =>
      apply (ih (taken.reliable reliable) (count + 1) t').imp
      intro r s'' t'' later
      exact taken.append later

/-- Rows that are handed over directly come behind a flush. -/
theorem insertAll_takes {s : Session} (reliable : x.Reliable s) (inserts : s.mode = .insert)
    (rows : List Row) (t : σ) :
    Ensures (x.writeAll rows) s t fun r s' _ =>
      s.Takes rows r (match r with
        | .ok _ => rows.map fun row => (row, .loaded)
        | .error _ => []) s' := by
  rw [ensures_writeAll inserts]
  apply (flush_balances reliable t).imp
  rintro r s' t' (⟨n, rfl, -, flushed⟩ | ⟨f, rfl, rfl, -⟩)
  · dsimp only
    split
    · rename_i f refused
      exact flushed.append (.refused s' rows f s'.update)
    · rename_i new prepared
      have count : rows.length = new.length := (mapM_eq_ok_iff.mp prepared).length_eq
      by_cases none : new = []
      · rw [if_pos none]
        obtain rfl : rows = [] := by
          rw [← List.length_eq_zero_iff, count, none, List.length_nil]
        exact flushed.answered 0
      · rw [if_neg none]
        apply ((flushed.reliable reliable).load_counts new t').imp
        rintro r t'' (rfl | ⟨f, rfl, -⟩)
        · rw [← count]
          exact flushed.append (.loaded s' rows _)
        · exact flushed.append (.refused s' rows f s'.update)
  · exact (Takes.nothing s' (.error f : Except Fault Unit)).stopped rows

/-- Rows that are written together are taken, in whatever way that is done. -/
theorem writeAll_takes {s : Session} (reliable : x.Reliable s) (rows : List Row) (t : σ) :
    Ensures (x.writeAll rows) s t fun r s' _ => s.Takes rows r (x.entriesOfAll s t rows) s' := by
  by_cases inserts : s.mode = .insert
  · have taken := insertAll_takes reliable inserts rows t
    rw [entriesOfAll, if_pos inserts]
    exact taken
  · rw [ensures_writeAll_each inserts, entriesOfAll, if_neg inserts]
    exact writeEach_takes reliable 0 rows t

end Backend

/-- A session with the state of its executor, what became of the rows that it has taken so far, and
the faults that calls have ended with. -/
structure Ledger (σ : Type) where
  session : Session
  database : σ
  entries : List (Row × Fate)
  faults : List Fault

namespace Ledger

/-- The rows that the session has taken, in order. -/
def rows (l : Ledger σ) : List Row := l.entries.map Prod.fst

/-- What became of them. -/
def fates (l : Ledger σ) : List Fate := l.entries.map Prod.snd

/-- Nothing is written yet. -/
def opened (s : Session) (t : σ) : Ledger σ := ⟨s, t, [], []⟩

/-- Enters how a call has ended. -/
def enter (l : Ledger σ) (entries : List (Row × Fate)) (run : (Except Fault α × Session) × σ) :
    Ledger σ where
  session := run.1.2
  database := run.2
  entries := l.entries ++ entries
  faults := match run.1.1 with
    | .ok _ => l.faults
    | .error f => l.faults ++ [f]

/-- Makes a call, whether or not it succeeds. -/
def after (x : Backend σ) (l : Ledger σ) : Command → Ledger σ
  | .write row =>
    let run := ((x.write row).run.run l.session).run l.database
    l.enter (l.session.entriesOf row run.1.1 run.1.2) run
  | .writeAll rows =>
    l.enter (x.entriesOfAll l.session l.database rows)
      (((x.writeAll rows).run.run l.session).run l.database)
  | .flush => l.enter [] ((x.flush.run.run l.session).run l.database)

/-- The ledger of a session agrees with the rows that were written to it. -/
structure Balanced (s : Session) (rows : List Row) (l : Ledger σ) : Prop where
  holds : ∃ q u m, l.session = s.holding q u m
  accounts : l.session.summary.Accounts l.fates l.session.staged
  taken : l.rows.Sublist rows
  whole : l.faults = [] → l.rows = rows
  stuck : ∀ row, (row, Fate.stuck) ∈ l.entries → ∃ f ∈ l.faults, ∃ staged, s.Rejects staged f

namespace Balanced

variable {x : Backend σ} {s : Session} {rows more : List Row} {l : Ledger σ}

theorem opened (fresh : s.Fresh) (unused : s.summary = {}) (t : σ) :
    (Ledger.opened s t).Balanced s [] where
  holds := ⟨s.staging, s.update, s.summary, rfl⟩
  accounts := by
    have none : s.staged = 0 := by
      rw [staged, fresh.staging]
      rfl
    change s.summary.Accounts [] s.staged
    rw [unused, none]
    exact .nothing
  taken := .slnil
  whole _ := rfl
  stuck _ member := by cases member

theorem enter (h : l.Balanced s rows) {entries : List (Row × Fate)} {r : Except Fault α}
    {s' : Session} (takes : l.session.Takes more r entries s') (t' : σ) :
    (l.enter entries ((r, s'), t')).Balanced s (rows ++ more) := by
  obtain ⟨q, u, m, same⟩ := h.holds
  obtain ⟨q', u', m', rfl⟩ := takes.holds
  constructor
  · exact ⟨q', u', m', by rw [same]; rfl⟩
  · have counted := takes.accounts _ h.accounts
    rwa [fates, ← List.map_append] at counted
  · have both := h.taken.append takes.taken
    rwa [Ledger.rows, ← List.map_append] at both
  · intro well
    cases r with
    | ok a =>
      rw [← h.whole well, ← takes.whole a rfl]
      exact List.map_append
    | error f => exact absurd well (List.append_ne_nil_of_right_ne_nil _ (List.cons_ne_nil f []))
  · intro row member
    obtain old | new := List.mem_append.mp member
    · obtain ⟨f, inside, rejects⟩ := h.stuck row old
      refine ⟨f, ?_, rejects⟩
      cases r with
      | ok a => exact inside
      | error _ => exact List.mem_append_left _ inside
    · obtain ⟨f, rfl, rejects⟩ := takes.stuck row new
      rw [same] at rejects
      exact ⟨f, List.mem_append_right _ List.mem_cons_self, _, rejects⟩

theorem reliable (h : l.Balanced s rows) (reliable : x.Reliable s) : x.Reliable l.session := by
  obtain ⟨q, u, m, same⟩ := h.holds
  rw [same]
  exact reliable.holding q u m

/-- Every call keeps the balance. -/
theorem after (h : l.Balanced s rows) (reliable : x.Reliable s) (command : Command) :
    (l.after x command).Balanced s (rows ++ Command.rows [command]) := by
  have reliable := h.reliable reliable
  cases command with
  | write row => exact h.enter (Backend.write_takes reliable row l.database) _
  | writeAll many =>
    have given : Command.rows [.writeAll many] = many := List.append_nil many
    rw [given]
    exact h.enter (Backend.writeAll_takes reliable many l.database) _
  | flush => exact h.enter (Backend.flush_takes reliable l.database) _

theorem afterAll (h : l.Balanced s rows) (reliable : x.Reliable s) (commands : List Command) :
    (commands.foldl (Ledger.after x) l).Balanced s (rows ++ Command.rows commands) := by
  induction commands generalizing l rows with
  | nil =>
    rw [Command.rows, List.append_nil]
    exact h
  | cons command rest ih =>
    have next := ih (h.after reliable command)
    have split : Command.rows (command :: rest) = Command.rows [command] ++ Command.rows rest := by
      cases command <;> simp [Command.rows]
    rwa [List.append_assoc, ← split] at next

end Balanced

/-- A session that appends files in a data view. -/
def files : Session where
  dialect := Builtin.dataView.dialect
  table := "Files"
  columns := [.of "Content" .binary]
  mode := .insert
  search := []
  other := [0]
  batchSize := 1
  maxStaged := 10000
  staging := .empty []
  update := none
  summary := {}

end Ledger

end SqlScribe

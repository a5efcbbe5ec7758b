import SqlScribe.Proofs.Writer.Invariants

/-!
# Batches

Rows that are not loaded in bulk are cut into batches, one INSERT each. A batch has no more rows
than the limits of the dialect allow, and one row in any case, so that every INSERT is one that the
dialect takes.
-/

namespace SqlScribe

open Session Writing

namespace Features

variable {f : Features} {columns : Nat}

theorem batchRows_of_single (single : f.multiRowInsert = false) : f.batchRows columns = 1 := by
  simp only [batchRows, single, Bool.false_eq_true, if_false]
  split <;> omega

theorem batchRows_le_maxBatchRows (limited : f.maxBatchRows ≠ 0) :
    f.batchRows columns ≤ f.maxBatchRows := by
  simp only [batchRows, if_neg limited]
  split <;> split <;> omega

/-- With a limit of parameters, the rows are so few that their cells fit, or there is but one. -/
theorem batchRows_le_of_maxParameters (limited : 0 < f.maxParameters) (columns : Nat) :
    f.batchRows columns * columns ≤ f.maxParameters ∨ f.batchRows columns = 1 := by
  by_cases none : columns = 0
  · left
    rw [none, Nat.mul_zero]
    exact Nat.zero_le _
  · have some : 0 < f.maxParameters ∧ 0 < columns := ⟨limited, Nat.pos_of_ne_zero none⟩
    by_cases one : f.batchRows columns = 1
    · exact .inr one
    · left
      have few : f.batchRows columns ≤ f.maxParameters / columns := by
        simp only [batchRows, if_pos some] at one ⊢
        omega
      exact Nat.le_trans (Nat.mul_le_mul_right columns few) (Nat.div_mul_le_self _ _)

end Features

namespace Session

/-- An opened session, with the limits that it has been given since, whatever it holds by then. -/
inductive Configured : Session → Prop
  | start {d : Dialect} {table : String} {columns : List Column} {names : List String}
      {mode : WriteMode} {s : Session} (opened : start d table columns names mode = .ok s) :
      Configured s
  | withBatchSize {s : Session} (rows : Nat) (before : Configured s) :
      Configured (s.withBatchSize rows)
  | withMaxStaged {s : Session} (rows : Nat) (before : Configured s) :
      Configured (s.withMaxStaged rows)
  | holding {s : Session} (staging : Staging) (update : Option PreparedUpdate)
      (summary : Summary) (before : Configured s) :
      Configured (s.holding staging update summary)

/-- A batch that the dialect takes as one INSERT: of some rows, no more than its limits allow, and
with no more parameters if those of a single row are not too many. -/
structure Admits (s : Session) (batch : List Row) : Prop where
  nonempty : batch ≠ []
  single : s.dialect.features.multiRowInsert = false → batch.length = 1
  rows : s.dialect.features.maxBatchRows ≠ 0 →
    batch.length ≤ s.dialect.features.maxBatchRows
  parameters : s.dialect.features.maxParameters ≠ 0 →
    (s.columns.filter fun c => s.dialect.binds c.type).length ≤
      s.dialect.features.maxParameters →
    ∀ statement, s.batchInsert batch = .ok statement →
      statement.params.length ≤ s.dialect.features.maxParameters
  checked : Insert.check s.dialect ⟨s.table, s.columns, batch⟩ = .ok ()

/-- The session has columns, and its batches are as large as its dialect allows at most. -/
structure Sized (s : Session) : Prop where
  columns : s.columns ≠ []
  positive : 1 ≤ s.batchSize
  capped : s.batchSize ≤ s.dialect.features.batchRows s.columns.length

variable {s : Session}

theorem Configured.sized (h : s.Configured) : s.Sized := by
  induction h with
  | @start d table columns names mode s opened =>
    have some : columns ≠ [] := by
      rintro rfl
      simp only [Session.start, List.isEmpty_nil, bind, Except.bind] at opened
      split at opened
      · cases opened
      · cases opened
    obtain ⟨search, -, -, -, rfl⟩ := start_spec opened
    exact ⟨some, Features.one_le_batchRows _ _, Nat.le_refl _⟩
  | @withBatchSize s rows before ih =>
    exact ⟨ih.columns, one_le_withBatchSize s rows, Nat.min_le_right _ _⟩
  | withMaxStaged rows before ih => exact ⟨ih.columns, ih.positive, ih.capped⟩
  | holding staging update summary before ih => exact ⟨ih.columns, ih.positive, ih.capped⟩

/-- A row has no more bound cells than there are columns to bind. -/
theorem length_bound_cells_le (d : Dialect) (columns : List Column) (row : Row) :
    ((cellsOf columns row).filter fun cell => d.binds cell.2).length ≤
      (columns.filter fun c => d.binds c.type).length := by
  induction columns generalizing row with
  | nil => exact Nat.le_refl _
  | cons c rest ih =>
    cases row with
    | nil => exact Nat.zero_le _
    | cons v others =>
      have later := ih others
      have split : cellsOf (c :: rest) (v :: others) = (v, c.type) :: cellsOf rest others := rfl
      rw [split, List.filter_cons, List.filter_cons]
      by_cases bound : d.binds c.type = true
      · rw [if_pos bound, if_pos bound]
        exact Nat.succ_le_succ later
      · rw [if_neg bound, if_neg bound]
        exact later

/-- The INSERT of a batch has at most as many parameters as its rows have cells that are bound. -/
theorem length_params_le {batch : List Row} {statement : Statement}
    (compiled : s.batchInsert batch = .ok statement) :
    statement.params.length ≤
      batch.length * (s.columns.filter fun c => s.dialect.binds c.type).length := by
  have become := Insert.params_of_compile compiled
  rw [mapM_eq_ok_iff] at become
  rw [← become.length_eq]
  dsimp only
  clear become compiled
  induction batch with
  | nil => simp
  | cons row rest ih =>
    have first : ((cellsOf s.columns row).filter fun cell => s.dialect.binds cell.2).length ≤
        (s.columns.filter fun c => s.dialect.binds c.type).length :=
      length_bound_cells_le s.dialect s.columns row
    rw [List.flatMap_cons, List.filter_append, List.length_append, List.length_cons, Nat.succ_mul]
    omega

theorem Sized.admits (sized : s.Sized) {rows batch : List Row}
    (member : batch ∈ inGroups s.batchSize rows) : s.Admits batch := by
  have positive : 0 < batch.length := pos_of_mem_inGroups member
  have capped : batch.length ≤ s.dialect.features.batchRows s.columns.length :=
    Nat.le_trans (length_le_of_mem_inGroups sized.positive member) sized.capped
  have nonempty : batch ≠ [] := List.length_pos_iff.mp positive
  have single (one : s.dialect.features.multiRowInsert = false) : batch.length = 1 := by
    rw [Features.batchRows_of_single one] at capped
    omega
  refine ⟨nonempty, single, ?_, ?_, ?_⟩
  · intro limited
    exact Nat.le_trans capped (Features.batchRows_le_maxBatchRows limited)
  · intro limited fits statement compiled
    have bound := length_params_le compiled
    have some : (s.columns.filter fun c => s.dialect.binds c.type).length ≤ s.columns.length :=
      List.length_filter_le _ _
    obtain few | one :=
      Features.batchRows_le_of_maxParameters (Nat.pos_of_ne_zero limited) s.columns.length
    · calc statement.params.length
        _ ≤ batch.length * _ := bound
        _ ≤ s.dialect.features.batchRows s.columns.length * s.columns.length :=
          Nat.mul_le_mul capped some
        _ ≤ s.dialect.features.maxParameters := few
    · have alone : batch.length = 1 := by omega
      rw [alone, Nat.one_mul] at bound
      exact Nat.le_trans bound fits
  · unfold Insert.check
    rw [if_neg (by simpa using sized.columns), if_neg (by simpa using nonempty), if_neg]
    rintro ⟨many, lacking⟩
    have one := single (by simpa using lacking)
    dsimp only at many
    omega

end Session

variable {σ : Type}

/-- The same executor with a record of the INSERTs that it was handed, and of the rows they are
for. -/
def Backend.logging (x : Backend σ) : Backend (σ × List (List Row × Statement)) where
  update set keys statement := ExceptT.mk fun (t, log) =>
    let (r, t') := (x.update set keys statement).run.run t
    (r, t', log)
  insert rows statement := ExceptT.mk fun (t, log) =>
    let (r, t') := (x.insert rows statement).run.run t
    (r, t', log ++ [(rows, statement)])
  bulkLoad load := ExceptT.mk fun (t, log) =>
    let (r, t') := (x.bulkLoad load).run.run t
    (r, t', log)

namespace Session

/-- What was handed over are INSERTs of the first of some batches, in order: of all of them, unless
it ended with a fault. -/
structure Inserts (s : Session) (batches : List (List Row)) (r : Except Fault UInt64)
    (sent : List (List Row × Statement)) : Prop where
  first : sent.map Prod.fst <+: batches
  compiled : ∀ entry ∈ sent, s.batchInsert entry.1 = .ok entry.2
  all : ∀ n, r = .ok n → sent.map Prod.fst = batches

namespace Inserts

variable {s : Session} {batches : List (List Row)} {r : Except Fault UInt64}
  {sent : List (List Row × Statement)}

theorem nothing (s : Session) (n : UInt64) : s.Inserts [] (.ok n) [] where
  first := List.nil_prefix
  compiled := List.forall_mem_nil _
  all _ _ := rfl

theorem stopped (s : Session) (batches : List (List Row)) (f : Fault) :
    s.Inserts batches (.error f) [] where
  first := List.nil_prefix
  compiled := List.forall_mem_nil _
  all := by
    intro n ended
    cases ended

theorem cons {batch : List Row} {statement : Statement}
    (compiled : s.batchInsert batch = .ok statement) (h : s.Inserts batches r sent) :
    s.Inserts (batch :: batches) r ((batch, statement) :: sent) := by
  refine ⟨?_, List.forall_mem_cons.mpr ⟨compiled, h.compiled⟩, ?_⟩
  · rw [List.map_cons]
    exact (List.prefix_cons_inj batch).mpr h.first
  · intro n ended
    rw [List.map_cons, h.all n ended]

end Inserts

end Session

namespace Backend

variable (x : Backend σ) (s : Session)

/-- Batches are handed over one by one, up to one that fails. -/
theorem insertBatches_inserts (total : UInt64) (batches : List (List Row))
    (t : σ × List (List Row × Statement)) :
    (x.logging.insertBatches s total batches).Ensures t fun r t' =>
      ∃ sent, t'.2 = t.2 ++ sent ∧ s.Inserts batches r sent := by
  induction batches generalizing total t with
  | nil => exact ⟨[], (List.append_nil _).symm, .nothing s total⟩
  | cons batch rest ih =>
    rw [ensures_insertBatches_cons]
    cases compiled :
        Insert.compile s.dialect s.dialect.preferredMode ⟨s.table, s.columns, batch⟩ with
    | error f => exact ⟨[], (List.append_nil _).symm, .stopped s _ f⟩
    | ok statement =>
      have noted : (x.logging.insert batch statement).Ensures t fun _ t' =>
          t'.2 = t.2 ++ [(batch, statement)] := rfl
      have alone (f : Fault) : s.Inserts (batch :: rest) (.error f) [(batch, statement)] :=
        .cons compiled (.stopped s rest f)
      apply noted.imp
      intro r t' log
      cases r with
      | error f => exact ⟨_, log, alone f⟩
      | ok counted =>
        cases counted with
        | none => exact ⟨_, log, alone _⟩
        | some n =>
          apply (ih (total + n) t').imp
          rintro r t'' ⟨sent, log', inserts⟩
          refine ⟨(batch, statement) :: sent, ?_, .cons compiled inserts⟩
          rw [log', log, List.append_assoc]
          rfl

/-- Rows are handed over in batches, unless they are loaded in bulk. -/
theorem load_inserts (rows : List Row) (t : σ × List (List Row × Statement)) :
    (x.logging.load s rows).Ensures t fun r t' =>
      ∃ sent, t'.2 = t.2 ++ sent ∧
        if s.dialect.features.bulkLoad then sent = []
        else s.Inserts (inGroups s.batchSize rows) r sent := by
  unfold load
  by_cases bulk : s.dialect.features.bulkLoad = true
  · simp only [if_pos bulk]
    exact ⟨[], (List.append_nil _).symm, rfl⟩
  · simp only [if_neg bulk]
    exact x.insertBatches_inserts s 0 _ t

end Backend

namespace Session

variable {s : Session}

/-- Every INSERT on record is that of a batch the dialect takes, and the session is the given one
with other staged rows and counters. -/
def Logged (s s' : Session) (log : List (List Row × Statement)) : Prop :=
  (∃ q u m, s' = s.holding q u m) ∧
    ∀ entry ∈ log, s.Admits entry.1 ∧ s.batchInsert entry.1 = .ok entry.2

/-- Every call of a session leaves a record of INSERTs the dialect takes. -/
theorem Sized.maintains (sized : s.Sized) (x : Backend σ) :
    x.logging.Maintains fun s' t => s.Logged s' t.2 where
  holding := by
    rintro _ t q u m ⟨⟨_, _, _, rfl⟩, admitted⟩
    exact ⟨⟨q, u, m, rfl⟩, admitted⟩
  update _ _ _ _ _ logged := logged
  load := by
    rintro _ t rows ⟨⟨q, u, m, rfl⟩, admitted⟩
    rw [Backend.load_holding]
    apply (x.load_inserts s rows t).imp
    rintro r t' ⟨sent, log, inserted⟩
    refine ⟨⟨q, u, m, rfl⟩, ?_⟩
    rw [log]
    intro entry member
    obtain before | new := List.mem_append.mp member
    · exact admitted entry before
    · split at inserted
      · rw [inserted] at new
        cases new
      · have batch := inserted.first.subset (List.mem_map_of_mem new)
        exact ⟨sized.admits batch, inserted.compiled entry new⟩

/-- Whatever a session is asked for, and whatever its executor answers, every INSERT it hands over
is that of a batch which the dialect takes; and at any time, any rows are cut into such batches in
order, which are handed over one by one unless the dialect loads them in bulk. -/
theorem inserts_admitted (configured : s.Configured) (x : Executor σ) (commands : List Command)
    (t : σ) :
    Ensures (x.backend.logging.performAll commands) s (t, []) fun _ s' t' =>
      (∀ entry ∈ t'.2, s.Admits entry.1 ∧ s.batchInsert entry.1 = .ok entry.2) ∧
      1 ≤ s'.batchSize ∧ ∀ rows, (inGroups s'.batchSize rows).flatten = rows ∧
        (∀ batch ∈ inGroups s'.batchSize rows, s.Admits batch) ∧
        (x.backend.logging.load s' rows).Ensures t' fun r t'' =>
          ∃ sent, t''.2 = t'.2 ++ sent ∧
            if s.dialect.features.bulkLoad then sent = []
            else s.Inserts (inGroups s'.batchSize rows) r sent := by
  have sized := configured.sized
  have empty : s.Logged s [] := ⟨⟨_, _, _, rfl⟩, List.forall_mem_nil _⟩
  apply ((sized.maintains x.backend).performAll commands (t := (t, [])) empty).imp
  rintro r s' t' ⟨⟨q, u, m, rfl⟩, admitted⟩
  refine ⟨admitted, sized.positive, fun rows => ⟨flatten_inGroups _ rows, ?_, ?_⟩⟩
  · intro batch member
    exact sized.admits member
  · rw [Backend.load_holding]
    exact x.backend.load_inserts s rows t'

/-- Notes two by two: the third one sets off a flush, and those that are written together come
after what was staged. -/
theorem inserts_admitted_notes :
    let s := (notes.withBatchSize 2).withMaxStaged 3
    let run := counting.backend.logging.performAll jottings
    Ensures run s ((), []) (fun _ _ t => t.2.map (fun entry => entry.1.length) = [2, 1, 2]) ∧
    Ensures run s ((), []) fun _ _ t =>
      ∀ entry ∈ t.2, s.Admits entry.1 ∧ s.batchInsert entry.1 = .ok entry.2 := by
  intro s run
  have sizes : Ensures run s ((), []) fun _ _ t =>
      t.2.map (fun entry => entry.1.length) = [2, 1, 2] := by
    unfold Ensures
    decide +kernel
  have configured : s.Configured := .withMaxStaged 3 (.withBatchSize 2 (.start start_notes))
  refine ⟨sizes, (inserts_admitted configured counting jottings ()).imp ?_⟩
  rintro _ _ t ⟨admitted, -⟩
  exact admitted

end Session

end SqlScribe

import SqlScribe.Proofs.Writer.Pending
import SqlScribe.Proofs.Writer.Retry

/-!
# What becomes of a written row

A row is placed, and if that staged it and too many rows are staged then, these are flushed. What
this can do to a session is said once, for every mode and whatever the executor answers.
-/

namespace SqlScribe

open Session Writing

variable {σ : Type}

namespace Session

/-- What can become of a session and of a row that is placed in it. -/
inductive Places (s : Session) (row : Row) : Except Fault WriteOutcome → Session → Prop
  /-- By then the UPDATE may have been prepared. -/
  | refused (f : Fault) (u : Option PreparedUpdate) :
      Places s row (.error f) (s.holding s.staging u s.summary)
  | staged {new : Row} (u : Option PreparedUpdate) (mode : s.mode ≠ .update)
      (checked : s.checkRow row = .ok ()) (prepared : s.prepareRow row = .ok new)
      (fresh : s.mode = .insertOrUpdate → s.staging.find? new = none) :
      Places s row (.ok .staged) (s.holding (s.staging.push new) u s.summary)
  | merged {new : Row} {position : Nat} (mode : s.mode = .insertOrUpdate)
      (prepared : s.prepareRow row = .ok new) (found : s.staging.find? new = some position) :
      Places s row (.ok .merged) (s.holding (s.staging.overwrite position s.other new) s.update
        { s.summary with merged := s.summary.merged + 1 })
  | updated (n : UInt64) (u : Option PreparedUpdate) (mode : s.mode ≠ .insert) (some : 0 < n) :
      Places s row (.ok (.updated n)) (s.holding s.staging u
        { s.summary with updated := s.summary.updated + n })
  | unmatched (u : Option PreparedUpdate) (mode : s.mode = .update) :
      Places s row (.ok .unmatched) (s.holding s.staging u
        { s.summary with unmatched := s.summary.unmatched + 1 })

/-- What can become of a session that is full: its staged rows are handed over and taken out, or the
executor fails and they stay. -/
inductive Relieves (x : Backend σ) (s : Session) : Except Fault Unit → Session → Prop
  | handed {n : UInt64} (loaded : ∃ t, (x.load s s.staging.rows).Ensures t fun r _ => r = .ok n) :
      Relieves x s (.ok ()) { s.countLoad n with staging := s.staging.clear }
  | stuck {f : Fault} (failed : ∃ t, (x.load s s.staging.rows).Ensures t fun r _ => r = .error f) :
      Relieves x s (.error f) s

/-- What can become of a session and of a row that is written to it: the row is placed and no more
happens, or it is one too many, and the rows that are staged then are flushed. -/
inductive Writes (x : Backend σ) (s : Session) (row : Row) :
    Except Fault WriteOutcome → Session → Prop
  | placed {r : Except Fault WriteOutcome} {s' : Session} (placed : s.Places row r s')
      (room : r = .ok .staged → s'.staged < s'.maxStaged) : Writes x s row r s'
  | flushed {full : Session} (placed : s.Places row (.ok .staged) full)
      (atLimit : full.maxStaged ≤ full.staged) (n : UInt64) :
      Writes x s row (.ok .staged) { full.countLoad n with staging := full.staging.clear }
  | stuck {full : Session} {f : Fault} (placed : s.Places row (.ok .staged) full)
      (atLimit : full.maxStaged ≤ full.staged)
      (failed : ∃ t, (x.load full full.staging.rows).Ensures t fun r _ => r = .error f) :
      Writes x s row (.error f) full

end Session

namespace Backend

variable (x : Backend σ)

/-- To run the UPDATE changes no more of the session than that it is prepared. -/
theorem runUpdate_holding (row : Row) (s : Session) (t : σ) :
    Ensures (x.runUpdate row) s t fun _ s' _ => ∃ u, s' = s.holding s.staging u s.summary := by
  have ready : Ensures preparedUpdate s t fun _ s' _ =>
      ∃ u, s' = s.holding s.staging u s.summary := by
    rw [ensures_preparedUpdate]
    cases s.update with
    | some p => exact ⟨s.update, rfl⟩
    | none =>
      dsimp only
      split
      · exact ⟨_, rfl⟩
      · exact ⟨s.update, rfl⟩
  rw [ensures_runUpdate]
  apply ready.imp
  intro r s' t' prepared
  cases r with
  | error f => exact prepared
  | ok p =>
    dsimp only
    split
    · exact prepared
    · apply Answer.ensures_of_forall
      intro r t''
      cases r with
      | error f => exact prepared
      | ok n => cases n <;> exact prepared

theorem place_places (row : Row) (s : Session) (t : σ) :
    Ensures (x.place row) s t fun r s' _ => s.Places row r s' := by
  rw [ensures_place]
  split
  · exact .refused _ s.update
  · rename_i checked
    cases mode : s.mode with
    | insert =>
      dsimp only
      rw [ensures_placeInsert]
      cases prepared : s.prepareRow row with
      | error f => exact .refused f s.update
      | ok new => exact .staged s.update (by simp [mode]) checked prepared (by simp [mode])
    | update =>
      dsimp only
      rw [ensures_placeUpdate]
      apply (x.runUpdate_holding row s t).imp
      rintro r _ t' ⟨u, rfl⟩
      cases r with
      | error f => exact .refused f u
      | ok n =>
        dsimp only
        split
        · exact .unmatched u mode
        · rename_i something
          exact .updated n u (by simp [mode]) (UInt64.pos_iff_ne_zero.mpr something)
    | insertOrUpdate =>
      rw [ensures_placeUpsert]
      cases prepared : s.prepareRow row with
      | error f => exact .refused f s.update
      | ok new =>
        dsimp only
        cases found : s.staging.find? new with
        | some position => exact .merged mode prepared found
        | none =>
          apply (x.runUpdate_holding row s t).imp
          rintro r _ t' ⟨u, rfl⟩
          cases r with
          | error f => exact .refused f u
          | ok n =>
            dsimp only
            split
            · exact .updated n u (by simp [mode]) ‹_›
            · exact .staged u (by simp [mode]) checked prepared fun _ => found

/-- In a full session the staged rows are handed over. -/
theorem relieve_relieves {s : Session} (atLimit : s.maxStaged ≤ s.staged)
    (something : s.staging.rows ≠ []) (t : σ) :
    Ensures x.relieve s t fun r s' _ => s.Relieves x r s' := by
  have loaded : (x.load s s.staging.rows).Ensures t fun r _ =>
      ∃ t, (x.load s s.staging.rows).Ensures t fun r' _ => r' = r := ⟨t, rfl⟩
  rw [ensures_relieve, if_pos atLimit, ensures_flush, if_neg something]
  apply loaded.imp
  rintro (f | n) _ answered
  · exact .stuck answered
  · exact .handed answered

theorem write_writes (row : Row) (s : Session) (t : σ) :
    Ensures (x.write row) s t fun r s' _ => s.Writes x row r s' := by
  rw [ensures_write]
  apply (x.place_places row s t).imp
  intro r full t' placed
  cases r with
  | error f => exact .placed placed nofun
  | ok outcome =>
    cases outcome with
    | merged => exact .placed placed nofun
    | updated n => exact .placed placed nofun
    | unmatched => exact .placed placed nofun
    | staged =>
      by_cases atLimit : full.maxStaged ≤ full.staged
      · have some_staged : full.staging.rows ≠ [] := by
          cases placed
          simp [holding, Staging.push]
        apply (x.relieve_relieves atLimit some_staged t').imp
        intro _ _ _ relieved
        cases relieved with
        | @handed n _ => exact .flushed placed atLimit n
        | stuck failed => exact .stuck placed atLimit failed
      · dsimp only
        rw [ensures_relieve, if_neg atLimit]
        exact .placed placed fun _ => Nat.lt_of_not_le atLimit

end Backend

/-- A row that has just been staged is found. -/
theorem Staging.find?_push {q : Staging} (keyed : q.keyColumns ≠ []) (row : Row) :
    (q.push row).find? row = some q.rows.length := by
  simp [find?, push, keyed]

/-- A row that is staged already is merged when it is written again, and no further row is
staged. -/
theorem Backend.write_merges (x : Backend σ) {s : Session} {row new : Row} {position : Nat}
    (mode : s.mode = .insertOrUpdate) (checked : s.checkRow row = .ok ())
    (prepared : s.prepareRow row = .ok new) (found : s.staging.find? new = some position) (t : σ) :
    Ensures (x.write row) s t fun r s' _ => r = .ok .merged ∧ s'.staged = s.staged := by
  rw [ensures_write, ensures_place, checked, mode]
  dsimp only
  rw [ensures_placeUpsert, prepared]
  dsimp only
  rw [found]
  exact ⟨rfl, List.length_modify _ _ _⟩

/-- A session that only inserts stages whatever is written to it. If it is full then, all staged
rows are handed over: they are taken out if that succeeds, and stay if it does not. -/
theorem Backend.write_stages (x : Backend σ) {s : Session} {row new : Row} (mode : s.mode = .insert)
    (checked : s.checkRow row = .ok ()) (prepared : s.prepareRow row = .ok new)
    (atLimit : s.maxStaged ≤ s.staged) (t : σ) :
    Ensures (x.write row) s t fun r s' _ =>
      Relieves x (s.holding (s.staging.push new) s.update s.summary)
        (r.map fun _ => ()) s' ∧ ∀ outcome, r = .ok outcome → outcome = .staged := by
  have full : s.maxStaged ≤ (s.holding (s.staging.push new) s.update s.summary).staged := by
    simp only [staged, holding, Staging.push, List.length_append] at atLimit ⊢
    omega
  have something : (s.holding (s.staging.push new) s.update s.summary).staging.rows ≠ [] := by
    simp [holding, Staging.push]
  rw [ensures_write, ensures_place, checked, mode]
  dsimp only
  rw [ensures_placeInsert, prepared]
  apply (x.relieve_relieves full something t).imp
  intro r s' _ relieved
  cases r with
  | ok _ => exact ⟨relieved, fun _ same => (Except.ok.inj same).symm⟩
  | error f =>
    refine ⟨relieved, ?_⟩
    rintro outcome ⟨⟩

/-- A write that ends with a fault leaves the staged rows, what is found among them and the counters
as they were, unless the row was staged and the flush which that set off has failed. Then the row
stands behind the others. Written again, it is merged there in a session that knows it by its key;
a session that only inserts stages it a second time, and hands both over. -/
theorem Session.write_fault (x : Executor σ) (row : Row) (s : Session) (t : σ) :
    Ensures (Session.write x row) s t fun r s' _ => ∀ f, r = .error f → ∃ u,
      s' = s.holding s.staging u s.summary ∨
      ∃ new, s.mode ≠ .update ∧ s.prepareRow row = .ok new ∧
        s' = s.holding (s.staging.push new) u s.summary ∧ s.maxStaged ≤ s'.staged ∧
        (∃ t₁, (x.backend.load s' s'.staging.rows).Ensures t₁ fun loaded _ => loaded = .error f) ∧
        (s.mode = .insertOrUpdate → s.staging.find? new = none ∧
          (s.staging.keyColumns ≠ [] → ∀ t₂,
            Ensures (Session.write x row) s' t₂ fun again s'' _ =>
              again = .ok .merged ∧ s''.staged = s'.staged)) ∧
        (s.mode = .insert → ∃ full,
          full = s.holding ((s.staging.push new).push new) u s.summary ∧
          full.staging.rows = s.staging.rows ++ [new, new] ∧
          ∀ t₂, Ensures (Session.write x row) s' t₂ fun again s'' _ =>
            full.Relieves x.backend (again.map fun _ => ()) s'' ∧
            ∀ outcome, again = .ok outcome → outcome = .staged) := by
  apply (x.backend.write_writes row s t).imp
  rintro r s' - written f rfl
  cases written with
  | placed placed _ =>
    cases placed with
    | refused _ u => exact ⟨u, .inl rfl⟩
  | @stuck full _ placed atLimit failed =>
    cases placed with
    | @staged new u mode checked prepared fresh =>
      refine ⟨u, .inr ⟨new, mode, prepared, rfl, atLimit, failed, fun upserts => ?_,
        fun inserts => ?_⟩⟩
      · refine ⟨fresh upserts, fun keyed t₂ => ?_⟩
        exact x.backend.write_merges (s := s.holding (s.staging.push new) u s.summary) upserts
          checked prepared (Staging.find?_push keyed new) t₂
      · refine ⟨_, rfl, by simp [holding, Staging.push], fun t₂ => ?_⟩
        exact x.backend.write_stages (s := s.holding (s.staging.push new) u s.summary) inserts
          checked prepared atLimit t₂

/-- The first call is lost, in a session that flushes every row at once: the row stays staged. -/
theorem Session.write_fault_numbers :
    Ensures (Session.write (interrupted 0) [.int 1]) (numbers.withMaxStaged 1) 0 fun r s' _ =>
      r = .error (.database "connection reset") ∧ ∃ u new,
        (numbers.withMaxStaged 1).prepareRow [.int 1] = .ok new ∧
        s' = (numbers.withMaxStaged 1).holding (numbers.staging.push new) u numbers.summary := by
  have lost : Ensures (Session.write (interrupted 0) [.int 1]) (numbers.withMaxStaged 1) 0
      fun r s' _ => r = .error (.database "connection reset") ∧ s'.staged = 1 := by
    unfold Ensures
    decide +kernel
  have fault := Session.write_fault (interrupted 0) [.int 1] (numbers.withMaxStaged 1) 0
  obtain ⟨u, same | ⟨new, -, prepared, after, -⟩⟩ := fault _ lost.1
  · have count := lost.2
    rw [same] at count
    cases count
  · exact ⟨lost.1, u, new, prepared, after⟩

/-- A number that is written again after its flush has failed is stored twice. -/
theorem Session.write_again_stores_twice :
    Ensures (Session.write (interrupted 0) [.int 1]) (numbers.withMaxStaged 1) 0 fun r s' t' =>
      r = .error (.database "connection reset") ∧
      (numbers.withMaxStaged 1).staging.rows = [] ∧ s'.staging.rows = [[.int 1]] ∧
      Ensures (Session.write (interrupted 0) [.int 1]) s' t' fun r' s'' _ =>
        r' = .ok .staged ∧ s''.summary.inserted = 2 := by
  unfold Ensures
  decide +kernel

end SqlScribe

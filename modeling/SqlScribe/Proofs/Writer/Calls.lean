import SqlScribe.Writer.Session

/-!
# What a call ensures

A call ends with an answer or a fault, and either way in some state. `Ensures` says that these
satisfy a condition; each operation of a session is described by what it takes for it to ensure one.
-/

namespace SqlScribe

variable {σ α β : Type}

/-- The call, made in a state, ends as the condition asks. -/
def Answer.Ensures (call : Answer σ α) (t : σ) (P : Except Fault α → σ → Prop) : Prop :=
  P (call.run.run t).1 (call.run.run t).2

namespace Answer

theorem ensures_result (r : Except Fault α) (t : σ) (P : Except Fault α → σ → Prop) :
    Ensures (ExceptT.mk (pure r) : Answer σ α) t P ↔ P r t := Iff.rfl

theorem ensures_bind (call : Answer σ α) (next : α → Answer σ β) (t : σ)
    (P : Except Fault β → σ → Prop) :
    Ensures (call >>= next) t P ↔ Ensures call t fun r t' =>
      match r with
      | .ok a => Ensures (next a) t' P
      | .error e => P (.error e) t' := by
  have step : (call >>= next).run.run t =
      (ExceptT.bindCont next (call.run.run t).1 : StateM σ _).run (call.run.run t).2 := rfl
  unfold Ensures
  rw [step]
  cases (call.run.run t).1 <;> exact Iff.rfl

theorem ensures_congr {call : Answer σ α} {t : σ} {P Q : Except Fault α → σ → Prop}
    (h : ∀ r t', P r t' ↔ Q r t') : Ensures call t P ↔ Ensures call t Q := h _ _

/-- What holds of every answer in every state is ensured by any call. -/
theorem ensures_of_forall {call : Answer σ α} {t : σ} {P : Except Fault α → σ → Prop}
    (h : ∀ r t', P r t') : Ensures call t P := h _ _

theorem Ensures.imp {call : Answer σ α} {t : σ} {P Q : Except Fault α → σ → Prop}
    (h : Ensures call t P) (weaker : ∀ r t', P r t' → Q r t') : Ensures call t Q :=
  weaker _ _ h

end Answer

/-- The step, made in a state, ends as the condition asks. -/
def Writing.Ensures (step : Writing σ α) (s : Session) (t : σ)
    (P : Except Fault α → Session → σ → Prop) : Prop :=
  P ((step.run.run s).run t).1.1 ((step.run.run s).run t).1.2 ((step.run.run s).run t).2

namespace Writing

variable {P : Except Fault α → Session → σ → Prop}

theorem ensures_pure (a : α) (s : Session) (t : σ) :
    Ensures (pure a : Writing σ α) s t P ↔ P (.ok a) s t := Iff.rfl

theorem ensures_attempt (r : Except Fault α) (s : Session) (t : σ) :
    Ensures (attempt r : Writing σ α) s t P ↔ P r s t := Iff.rfl

theorem ensures_get (s : Session) (t : σ) (P : Except Fault Session → Session → σ → Prop) :
    Ensures (get : Writing σ Session) s t P ↔ P (.ok s) s t := Iff.rfl

theorem ensures_set (s' s : Session) (t : σ) (P : Except Fault PUnit → Session → σ → Prop) :
    Ensures (set s' : Writing σ PUnit) s t P ↔ P (.ok ⟨⟩) s' t := Iff.rfl

theorem ensures_modify (f : Session → Session) (s : Session) (t : σ)
    (P : Except Fault PUnit → Session → σ → Prop) :
    Ensures (modify f : Writing σ PUnit) s t P ↔ P (.ok ⟨⟩) (f s) t := Iff.rfl

theorem ensures_ask (call : Answer σ α) (s : Session) (t : σ) :
    Ensures (ask call) s t P ↔ call.Ensures t fun r t' => P r s t' := Iff.rfl

theorem ensures_bind (step : Writing σ α) (next : α → Writing σ β) (s : Session) (t : σ)
    (P : Except Fault β → Session → σ → Prop) :
    Ensures (step >>= next) s t P ↔ Ensures step s t fun r s' t' =>
      match r with
      | .ok a => Ensures (next a) s' t' P
      | .error e => P (.error e) s' t' := by
  have both : ((step >>= next).run.run s).run t =
      ((ExceptT.bindCont next ((step.run.run s).run t).1.1 : StateT Session (StateM σ) _).run
        ((step.run.run s).run t).1.2).run ((step.run.run s).run t).2 := rfl
  unfold Ensures
  rw [both]
  cases ((step.run.run s).run t).1.1 <;> exact Iff.rfl

theorem ensures_congr {step : Writing σ α} {s : Session} {t : σ}
    {Q : Except Fault α → Session → σ → Prop} (h : ∀ r s' t', P r s' t' ↔ Q r s' t') :
    Ensures step s t P ↔ Ensures step s t Q := h _ _ _

theorem Ensures.imp {step : Writing σ α} {s : Session} {t : σ}
    {Q : Except Fault α → Session → σ → Prop} (h : Ensures step s t P)
    (weaker : ∀ r s' t', P r s' t' → Q r s' t') : Ensures step s t Q :=
  weaker _ _ _ h

theorem ensures_discard (step : Writing σ α) (s : Session) (t : σ)
    (P : Except Fault PUnit → Session → σ → Prop) :
    Ensures (discard step) s t P ↔
      Ensures step s t fun r s' t' => P (r.map fun _ => ⟨⟩) s' t' := by
  have dropped : (discard step : Writing σ PUnit) = step >>= fun _ => pure ⟨⟩ := by
    rw [discard, LawfulFunctor.map_const, Function.comp_apply, map_eq_pure_bind]
  rw [dropped, ensures_bind]
  apply ensures_congr
  intro r s' t'
  cases r <;> exact Iff.rfl

theorem ensures_outcome (step : Writing σ α) (s : Session) (t : σ)
    (P : Except Fault (Except Fault α) → Session → σ → Prop) :
    Ensures (outcome step) s t P ↔ Ensures step s t fun r s' t' => P (.ok r) s' t' := Iff.rfl

theorem ensures_ite (c : Prop) [Decidable c] (yes no : Writing σ α) (s : Session) (t : σ) :
    Ensures (if c then yes else no) s t P ↔
      if c then Ensures yes s t P else Ensures no s t P := by
  split <;> exact Iff.rfl

end Writing

/-- The session with other staged rows, another prepared UPDATE and other counters. -/
def Session.holding (s : Session) (q : Staging) (u : Option PreparedUpdate) (m : Summary) :
    Session :=
  { s with staging := q, update := u, summary := m }

namespace Backend

open Writing Session

variable (x : Backend σ)

section Holding

variable (s : Session) (q : Staging) (u : Option PreparedUpdate) (m : Summary)

theorem insertBatches_holding (total : UInt64) (batches : List (List Row)) :
    x.insertBatches (s.holding q u m) total batches = x.insertBatches s total batches := by
  induction batches generalizing total with
  | nil => rfl
  | cons batch rest ih =>
    simp only [insertBatches, ih]
    rfl

/-- What is staged or counted does not matter to how rows are handed over. -/
theorem load_holding (staged : List Row) : x.load (s.holding q u m) staged = x.load s staged := by
  unfold load
  rw [insertBatches_holding]
  rfl

end Holding

theorem ensures_insertBatches_cons (s : Session) (total : UInt64) (batch : List Row)
    (rest : List (List Row)) (t : σ) (P : Except Fault UInt64 → σ → Prop) :
    (x.insertBatches s total (batch :: rest)).Ensures t P ↔
      match Insert.compile s.dialect s.dialect.preferredMode ⟨s.table, s.columns, batch⟩ with
      | .error e => P (.error e) t
      | .ok statement => (x.insert batch statement).Ensures t fun r t' =>
        match r with
        | .error e => P (.error e) t'
        | .ok none => P (.error (.uncounted .insert s.table)) t'
        | .ok (some n) => (x.insertBatches s (total + n) rest).Ensures t' P := by
  rw [insertBatches, Answer.ensures_bind, Answer.ensures_result]
  cases Insert.compile s.dialect s.dialect.preferredMode ⟨s.table, s.columns, batch⟩ with
  | error e => exact Iff.rfl
  | ok statement =>
    dsimp only
    rw [Answer.ensures_bind]
    apply Answer.ensures_congr
    intro r t'
    cases r with
    | error e => exact Iff.rfl
    | ok n => cases n <;> exact Iff.rfl

/-- A flush with nothing staged does nothing; after a fault the session is as it was. -/
theorem ensures_flush (s : Session) (t : σ) (P : Except Fault UInt64 → Session → σ → Prop) :
    Ensures x.flush s t P ↔
      if s.staging.rows = [] then P (.ok 0) s t
      else (x.load s s.staging.rows).Ensures t fun r t' =>
        match r with
        | .ok n => P (.ok n) { s.countLoad n with staging := s.staging.clear } t'
        | .error e => P (.error e) s t' := by
  simp only [flush, ensures_bind, ensures_get, ensures_ite, ensures_pure, ensures_modify,
    ensures_outcome, ensures_ask, List.isEmpty_iff]
  split
  · exact Iff.rfl
  · -- The rows that were taken out play no part while they are handed over.
    have taken : x.load { s with staging := s.staging.clear } s.staging.rows =
        x.load s s.staging.rows := x.load_holding s s.staging.clear s.update s.summary _
    rw [taken]
    apply Answer.ensures_congr
    intro r t'
    cases r <;> exact Iff.rfl

theorem ensures_relieve (s : Session) (t : σ) (P : Except Fault Unit → Session → σ → Prop) :
    Ensures x.relieve s t P ↔
      if s.maxStaged ≤ s.staged then
        Ensures x.flush s t fun r s' t' => P (r.map fun _ => ()) s' t'
      else P (.ok ()) s t := by
  simp only [relieve, ensures_bind, ensures_get, ensures_ite, ensures_pure, ensures_discard]

/-- Only a staged row can set off a flush. -/
theorem ensures_write (row : Row) (s : Session) (t : σ)
    (P : Except Fault WriteOutcome → Session → σ → Prop) :
    Ensures (x.write row) s t P ↔ Ensures (x.place row) s t fun r s' t' =>
      match r with
      | .ok .staged =>
        Ensures x.relieve s' t' fun r s'' t'' => P (r.map fun _ => .staged) s'' t''
      | .ok outcome => P (.ok outcome) s' t'
      | .error e => P (.error e) s' t' := by
  simp only [write, ensures_bind, ensures_ite, ensures_pure]
  apply ensures_congr
  intro r s' t'
  cases r with
  | error e => exact Iff.rfl
  | ok outcome =>
    cases outcome with
    | staged =>
      dsimp only
      rw [if_pos rfl]
      apply ensures_congr
      intro r s'' t''
      cases r <;> exact Iff.rfl
    | merged => exact Iff.rfl
    | updated n => exact Iff.rfl
    | unmatched => exact Iff.rfl

theorem ensures_preparedUpdate (s : Session) (t : σ)
    (P : Except Fault PreparedUpdate → Session → σ → Prop) :
    Ensures preparedUpdate s t P ↔
      match s.update with
      | some p => P (.ok p) s t
      | none =>
        match PreparedUpdate.prepare s.dialect s.table (s.columnsAt s.other)
          (s.columnsAt s.search) with
        | .ok p => P (.ok p) { s with update := some p } t
        | .error e => P (.error e) s t := by
  simp only [preparedUpdate, ensures_bind, ensures_get]
  cases s.update with
  | some p => exact Iff.rfl
  | none =>
    simp only [ensures_bind, ensures_attempt, ensures_set, ensures_pure]
    cases PreparedUpdate.prepare s.dialect s.table (s.columnsAt s.other)
      (s.columnsAt s.search) <;> exact Iff.rfl

theorem ensures_runUpdate (row : Row) (s : Session) (t : σ)
    (P : Except Fault UInt64 → Session → σ → Prop) :
    Ensures (x.runUpdate row) s t P ↔ Ensures preparedUpdate s t fun r s' t' =>
      match r with
      | .error e => P (.error e) s' t'
      | .ok p =>
        match p.bind s'.dialect (cellsAt row s'.other) (cellsAt row s'.search) with
        | .error e => P (.error e) s' t'
        | .ok statement =>
          (x.update (cellsAt row s'.other) (cellsAt row s'.search) statement).Ensures t'
            fun r t'' => match r with
              | .error e => P (.error e) s' t''
              | .ok none => P (.error (.uncounted .update s'.table)) s' t''
              | .ok (some n) => P (.ok n) s' t'' := by
  simp only [runUpdate, ensures_bind, ensures_get, ensures_attempt, ensures_ask]
  apply ensures_congr
  intro r s' t'
  cases r with
  | error e => exact Iff.rfl
  | ok p =>
    dsimp only
    cases p.bind s'.dialect (cellsAt row s'.other) (cellsAt row s'.search) with
    | error e => exact Iff.rfl
    | ok statement =>
      apply Answer.ensures_congr
      intro r t''
      cases r with
      | error e => exact Iff.rfl
      | ok n => cases n <;> exact Iff.rfl

theorem ensures_placeInsert (row : Row) (s : Session) (t : σ)
    (P : Except Fault WriteOutcome → Session → σ → Prop) :
    Ensures (placeInsert row) s t P ↔
      match s.prepareRow row with
      | .error e => P (.error e) s t
      | .ok prepared => P (.ok .staged) { s with staging := s.staging.push prepared } t := by
  simp only [placeInsert, stage, ensures_bind, ensures_get, ensures_attempt, ensures_modify,
    ensures_pure]
  cases s.prepareRow row <;> exact Iff.rfl

theorem ensures_placeUpdate (row : Row) (s : Session) (t : σ)
    (P : Except Fault WriteOutcome → Session → σ → Prop) :
    Ensures (x.placeUpdate row) s t P ↔ Ensures (x.runUpdate row) s t fun r s' t' =>
      match r with
      | .error e => P (.error e) s' t'
      | .ok n =>
        if n = 0 then P (.ok .unmatched) { s' with
          summary := { s'.summary with unmatched := s'.summary.unmatched + 1 } } t'
        else P (.ok (.updated n)) { s' with
          summary := { s'.summary with updated := s'.summary.updated + n } } t' := by
  simp only [placeUpdate, countUpdated, ensures_bind, ensures_ite, ensures_modify, ensures_pure]
  apply ensures_congr
  intro r s' t'
  cases r <;> exact Iff.rfl

theorem ensures_placeUpsert (row : Row) (s : Session) (t : σ)
    (P : Except Fault WriteOutcome → Session → σ → Prop) :
    Ensures (x.placeUpsert row) s t P ↔
      match s.prepareRow row with
      | .error e => P (.error e) s t
      | .ok prepared =>
        match s.staging.find? prepared with
        | some position => P (.ok .merged) { s with
            staging := s.staging.overwrite position s.other prepared
            summary := { s.summary with merged := s.summary.merged + 1 } } t
        | none => Ensures (x.runUpdate row) s t fun r s' t' =>
          match r with
          | .error e => P (.error e) s' t'
          | .ok n =>
            if 0 < n then P (.ok (.updated n)) { s' with
              summary := { s'.summary with updated := s'.summary.updated + n } } t'
            else P (.ok .staged) { s' with staging := s'.staging.push prepared } t' := by
  simp only [placeUpsert, ensures_bind, ensures_get, ensures_attempt]
  cases s.prepareRow row with
  | error e => exact Iff.rfl
  | ok prepared =>
    dsimp only
    cases s.staging.find? prepared with
    | some position => exact Iff.rfl
    | none =>
      simp only [ensures_bind, ensures_ite, countUpdated, stage, ensures_modify, ensures_pure]
      apply ensures_congr
      intro r s' t'
      cases r <;> exact Iff.rfl

/-- A row of the wrong width changes nothing. -/
theorem ensures_place (row : Row) (s : Session) (t : σ)
    (P : Except Fault WriteOutcome → Session → σ → Prop) :
    Ensures (x.place row) s t P ↔
      match s.checkRow row with
      | .error e => P (.error e) s t
      | .ok () =>
        match s.mode with
        | .insert => Ensures (placeInsert row) s t P
        | .update => Ensures (x.placeUpdate row) s t P
        | .insertOrUpdate => Ensures (x.placeUpsert row) s t P := by
  simp only [place, ensures_bind, ensures_get, ensures_attempt]
  cases s.checkRow row with
  | error e => exact Iff.rfl
  | ok _ => cases s.mode <;> exact Iff.rfl

theorem ensures_finish (s : Session) (t : σ) (P : Except Fault Summary → Session → σ → Prop) :
    Ensures x.finish s t P ↔ Ensures x.flush s t fun r s' t' =>
      P (r.map fun _ => s'.summary) s' t' := by
  simp only [finish, ensures_bind, ensures_discard, ensures_get, ensures_pure]
  apply ensures_congr
  intro r s' t'
  cases r <;> exact Iff.rfl

end Backend

end SqlScribe

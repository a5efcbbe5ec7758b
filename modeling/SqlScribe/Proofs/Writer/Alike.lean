import SqlScribe.Proofs.Writer.Calls

/-!
# Executors that cannot be told apart

A session knows of its executor nothing but the answers. Over executors that answer alike its
operations end alike, whatever the executors have seen before.
-/

namespace SqlScribe

open Session Writing

variable {σ τ α β : Type}

/-- Made in related states, the calls end alike and in related states. -/
def Answer.Alike (R : σ → τ → Prop) (call : Answer σ α) (call' : Answer τ α) : Prop :=
  ∀ t u, R t u → call.Ensures t fun r t' => call'.Ensures u fun r' u' => r = r' ∧ R t' u'

namespace Answer.Alike

variable {R : σ → τ → Prop}

theorem result (r : Except Fault α) :
    Alike R (ExceptT.mk (pure r) : Answer σ α) (ExceptT.mk (pure r)) :=
  fun _ _ related => ⟨rfl, related⟩

theorem bind {call : Answer σ α} {call' : Answer τ α} {next : α → Answer σ β}
    {next' : α → Answer τ β} (first : Alike R call call')
    (then_next : ∀ a, Alike R (next a) (next' a)) : Alike R (call >>= next) (call' >>= next') := by
  intro t u related
  rw [Answer.ensures_bind]
  apply (first t u related).imp
  rintro r t' ⟨same, related'⟩
  cases r with
  | error f =>
    dsimp only
    rw [Answer.ensures_bind]
    unfold Answer.Ensures
    rw [← same]
    exact ⟨rfl, related'⟩
  | ok a =>
    apply (then_next a t' _ related').imp
    intro r' t'' ended
    rw [Answer.ensures_bind]
    unfold Answer.Ensures
    rw [← same]
    exact ended

end Answer.Alike

/-- Made in one session and in related states, the steps end alike: with one result, in one session
and in related states. -/
def Writing.Alike (R : σ → τ → Prop) (step : Writing σ α) (step' : Writing τ α) : Prop :=
  ∀ s t u, R t u → Ensures step s t fun r s' t' =>
    Ensures step' s u fun r' s'' u' => r = r' ∧ s' = s'' ∧ R t' u'

namespace Writing.Alike

variable {R : σ → τ → Prop}

theorem pure (a : α) : Alike R (pure a : Writing σ α) (pure a) :=
  fun _ _ _ related => ⟨rfl, rfl, related⟩

theorem attempt (r : Except Fault α) :
    Alike R (Writing.attempt r : Writing σ α) (Writing.attempt r) :=
  fun _ _ _ related => ⟨rfl, rfl, related⟩

theorem throw (fault : Fault) : Alike R (throw fault : Writing σ α) (throw fault) :=
  fun _ _ _ related => ⟨rfl, rfl, related⟩

theorem get : Alike R (get : Writing σ Session) get :=
  fun _ _ _ related => ⟨rfl, rfl, related⟩

theorem set (s : Session) : Alike R (set s : Writing σ PUnit) (set s) :=
  fun _ _ _ related => ⟨rfl, rfl, related⟩

theorem modify (f : Session → Session) : Alike R (modify f : Writing σ PUnit) (modify f) :=
  fun _ _ _ related => ⟨rfl, rfl, related⟩

theorem ask {call : Answer σ α} {call' : Answer τ α} (h : Answer.Alike R call call') :
    Alike R (Writing.ask call) (Writing.ask call') := by
  intro s t u related
  obtain ⟨same, related'⟩ := h t u related
  exact ⟨same, rfl, related'⟩

theorem outcome {step : Writing σ α} {step' : Writing τ α} (h : Alike R step step') :
    Alike R (Writing.outcome step) (Writing.outcome step') := by
  intro s t u related
  obtain ⟨same, held⟩ := h s t u related
  exact ⟨congrArg Except.ok same, held⟩

theorem bind {step : Writing σ α} {step' : Writing τ α} {next : α → Writing σ β}
    {next' : α → Writing τ β} (first : Alike R step step')
    (then_next : ∀ a, Alike R (next a) (next' a)) : Alike R (step >>= next) (step' >>= next') := by
  intro s t u related
  rw [ensures_bind]
  apply (first s t u related).imp
  rintro r s' t' ⟨same, rfl, related'⟩
  cases r with
  | error f =>
    dsimp only
    rw [ensures_bind]
    unfold Ensures
    rw [← same]
    exact ⟨rfl, rfl, related'⟩
  | ok a =>
    apply (then_next a _ t' _ related').imp
    intro r' s'' t'' ended
    rw [ensures_bind]
    unfold Ensures
    rw [← same]
    exact ended

theorem discard {step : Writing σ α} {step' : Writing τ α} (h : Alike R step step') :
    Alike R (discard step) (discard step') := by
  intro s t u related
  rw [ensures_discard]
  apply (h s t u related).imp
  rintro r s' t' ⟨same, held⟩
  rw [ensures_discard]
  exact ⟨congrArg _ same, held⟩

theorem branch {c : Prop} [Decidable c] {yes no : Writing σ α} {yes' no' : Writing τ α}
    (h : Alike R yes yes') (h' : Alike R no no') :
    Alike R (if c then yes else no) (if c then yes' else no') := by
  by_cases holds : c
  · rw [if_pos holds, if_pos holds]
    exact h
  · rw [if_neg holds, if_neg holds]
    exact h'

end Writing.Alike

/-- In related states the backends answer every call alike, and are related again afterwards. -/
structure Backend.Alike (x : Backend σ) (y : Backend τ) (R : σ → τ → Prop) : Prop where
  update : ∀ set keys statement,
    Answer.Alike R (x.update set keys statement) (y.update set keys statement)
  insert : ∀ rows statement, Answer.Alike R (x.insert rows statement) (y.insert rows statement)
  bulkLoad : ∀ load, Answer.Alike R (x.bulkLoad load) (y.bulkLoad load)

namespace Backend.Alike

variable {x : Backend σ} {y : Backend τ} {R : σ → τ → Prop}

theorem insertBatches (h : x.Alike y R) (s : Session) (total : UInt64)
    (batches : List (List Row)) :
    Answer.Alike R (x.insertBatches s total batches) (y.insertBatches s total batches) := by
  induction batches generalizing total with
  | nil => exact .result (.ok total)
  | cons batch rest ih =>
    apply Answer.Alike.bind
    · exact .result _
    · intro statement
      apply (h.insert batch statement).bind
      intro counted
      cases counted with
      | some n => exact ih (total + n)
      | none => exact .result (.error (.uncounted .insert s.table))

theorem load (h : x.Alike y R) (s : Session) (rows : List Row) :
    Answer.Alike R (x.load s rows) (y.load s rows) := by
  unfold Backend.load
  by_cases bulk : s.dialect.features.bulkLoad = true
  · rw [if_pos bulk, if_pos bulk]
    exact h.bulkLoad _
  · rw [if_neg bulk, if_neg bulk]
    exact h.insertBatches s 0 _

theorem flush (h : x.Alike y R) : Writing.Alike R x.flush y.flush := by
  apply Writing.Alike.get.bind
  intro s
  apply Writing.Alike.branch (.pure 0)
  apply (Writing.Alike.modify _).bind
  intro _
  apply Writing.Alike.get.bind
  intro s'
  apply (Writing.Alike.ask (h.load s' s.staging.rows)).outcome.bind
  intro r
  cases r with
  | ok n => exact (Writing.Alike.modify _).bind fun _ => .pure n
  | error f => exact (Writing.Alike.modify _).bind fun _ => .throw f

theorem relieve (h : x.Alike y R) : Writing.Alike R x.relieve y.relieve := by
  apply Writing.Alike.get.bind
  intro full
  apply Writing.Alike.get.bind
  intro s
  exact .branch h.flush.discard (.pure ())

theorem preparedUpdate : Writing.Alike R (preparedUpdate : Writing σ _) preparedUpdate := by
  apply Writing.Alike.get.bind
  intro s
  cases s.update with
  | some p => exact .pure p
  | none =>
    apply (Writing.Alike.attempt _).bind
    intro p
    exact (Writing.Alike.set _).bind fun _ => .pure p

theorem runUpdate (h : x.Alike y R) (row : Row) :
    Writing.Alike R (x.runUpdate row) (y.runUpdate row) := by
  apply preparedUpdate.bind
  intro p
  apply Writing.Alike.get.bind
  intro s
  apply (Writing.Alike.attempt _).bind
  intro statement
  apply (Writing.Alike.ask (h.update _ _ statement)).bind
  intro counted
  cases counted with
  | some n => exact .pure n
  | none => exact .throw _

theorem countUpdated (n : UInt64) :
    Writing.Alike R (countUpdated n : Writing σ _) (countUpdated n) :=
  (Writing.Alike.modify _).bind fun _ => .pure _

theorem stage (row : Row) : Writing.Alike R (stage row : Writing σ _) (stage row) :=
  (Writing.Alike.modify _).bind fun _ => .pure _

theorem place (h : x.Alike y R) (row : Row) : Writing.Alike R (x.place row) (y.place row) := by
  apply Writing.Alike.get.bind
  intro s
  apply (Writing.Alike.attempt _).bind
  intro _
  cases s.mode with
  | insert =>
    apply Writing.Alike.get.bind
    intro s
    exact (Writing.Alike.attempt _).bind fun new => stage new
  | update =>
    apply (h.runUpdate row).bind
    intro n
    exact .branch ((Writing.Alike.modify _).bind fun _ => .pure _) (countUpdated n)
  | insertOrUpdate =>
    apply Writing.Alike.get.bind
    intro s
    apply (Writing.Alike.attempt _).bind
    intro new
    dsimp only
    cases s.staging.find? new with
    | some position => exact (Writing.Alike.set _).bind fun _ => .pure _
    | none =>
      apply (h.runUpdate row).bind
      intro n
      exact .branch (countUpdated n) (stage new)

theorem write (h : x.Alike y R) (row : Row) : Writing.Alike R (x.write row) (y.write row) := by
  apply (h.place row).bind
  intro outcome
  exact .branch (h.relieve.bind fun _ => .pure outcome) (.pure outcome)

theorem writeEach (h : x.Alike y R) (count : UInt64) (rows : List Row) :
    Writing.Alike R (x.writeEach count rows) (y.writeEach count rows) := by
  induction rows generalizing count with
  | nil => exact .pure count
  | cons row rest ih => exact (h.write row).discard.bind fun _ => ih (count + 1)

theorem writeAll (h : x.Alike y R) (rows : List Row) :
    Writing.Alike R (x.writeAll rows) (y.writeAll rows) := by
  apply Writing.Alike.get.bind
  intro s
  apply Writing.Alike.branch (h.writeEach 0 rows)
  apply h.flush.discard.bind
  intro _
  apply Writing.Alike.get.bind
  intro s
  apply (Writing.Alike.attempt _).bind
  intro new
  apply Writing.Alike.branch (.pure 0)
  apply (Writing.Alike.ask (h.load s new)).bind
  intro n
  exact (Writing.Alike.set _).bind fun _ => .pure n

end Backend.Alike

end SqlScribe

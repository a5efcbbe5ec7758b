import SqlScribe.Proofs.Writer.Recovery

/-!
# Invariants of sessions

What holds of a session and of the state of its executor goes on holding through every run of
commands, if it does not depend on what is staged or counted and if no call of the executor ends it.
-/

namespace SqlScribe

open Session Writing

variable {σ : Type}

/-- The calls that a session makes keep a condition, which does not depend on what is staged or
counted. -/
structure Backend.Maintains (x : Backend σ) (I : Session → σ → Prop) : Prop where
  holding : ∀ s t q u m, I s t → I (s.holding q u m) t
  update : ∀ s t set keys statement, I s t →
    (x.update set keys statement).Ensures t fun _ t' => I s t'
  load : ∀ s t rows, I s t → (x.load s rows).Ensures t fun _ t' => I s t'

namespace Backend.Maintains

variable {x : Backend σ} {I : Session → σ → Prop} {s : Session} {t : σ}

theorem flush (h : x.Maintains I) (holds : I s t) : Ensures x.flush s t fun _ s' t' => I s' t' := by
  rw [ensures_flush]
  by_cases nothing : s.staging.rows = []
  · rw [if_pos nothing]
    exact holds
  · rw [if_neg nothing]
    apply (h.load s t s.staging.rows holds).imp
    intro r t' kept
    cases r with
    | ok n => exact h.holding s t' s.staging.clear s.update _ kept
    | error f => exact kept

theorem relieve (h : x.Maintains I) (holds : I s t) :
    Ensures x.relieve s t fun _ s' t' => I s' t' := by
  rw [ensures_relieve]
  by_cases many : s.maxStaged ≤ s.staged
  · rw [if_pos many]
    exact h.flush holds
  · rw [if_neg many]
    exact holds

theorem preparedUpdate (h : x.Maintains I) (holds : I s t) :
    Ensures preparedUpdate s t fun _ s' t' => I s' t' := by
  rw [ensures_preparedUpdate]
  cases s.update with
  | some p => exact holds
  | none =>
    dsimp only
    cases PreparedUpdate.prepare s.dialect s.table (s.columnsAt s.other)
      (s.columnsAt s.search) with
    | ok p => exact h.holding s t s.staging (some p) s.summary holds
    | error f => exact holds

theorem runUpdate (h : x.Maintains I) (row : Row) (holds : I s t) :
    Ensures (x.runUpdate row) s t fun _ s' t' => I s' t' := by
  rw [ensures_runUpdate]
  apply (h.preparedUpdate holds).imp
  intro r s' t' kept
  cases r with
  | error f => exact kept
  | ok p =>
    dsimp only
    cases p.bind s'.dialect (cellsAt row s'.other) (cellsAt row s'.search) with
    | error f => exact kept
    | ok statement =>
      apply (h.update s' t' _ _ statement kept).imp
      intro r t'' kept
      cases r with
      | error f => exact kept
      | ok counted => cases counted <;> exact kept

theorem placeInsert (h : x.Maintains I) (row : Row) (holds : I s t) :
    Ensures (placeInsert row) s t fun _ s' t' => I s' t' := by
  rw [ensures_placeInsert]
  cases s.prepareRow row with
  | error f => exact holds
  | ok new => exact h.holding s t (s.staging.push new) s.update s.summary holds

theorem placeUpdate (h : x.Maintains I) (row : Row) (holds : I s t) :
    Ensures (x.placeUpdate row) s t fun _ s' t' => I s' t' := by
  rw [ensures_placeUpdate]
  apply (h.runUpdate row holds).imp
  intro r s' t' kept
  cases r with
  | error f => exact kept
  | ok n =>
    dsimp only
    split
    · exact h.holding s' t' s'.staging s'.update _ kept
    · exact h.holding s' t' s'.staging s'.update _ kept

theorem placeUpsert (h : x.Maintains I) (row : Row) (holds : I s t) :
    Ensures (x.placeUpsert row) s t fun _ s' t' => I s' t' := by
  rw [ensures_placeUpsert]
  cases s.prepareRow row with
  | error f => exact holds
  | ok new =>
    dsimp only
    cases s.staging.find? new with
    | some position => exact h.holding s t _ s.update _ holds
    | none =>
      apply (h.runUpdate row holds).imp
      intro r s' t' kept
      cases r with
      | error f => exact kept
      | ok n =>
        dsimp only
        split
        · exact h.holding s' t' s'.staging s'.update _ kept
        · exact h.holding s' t' (s'.staging.push new) s'.update s'.summary kept

theorem place (h : x.Maintains I) (row : Row) (holds : I s t) :
    Ensures (x.place row) s t fun _ s' t' => I s' t' := by
  rw [ensures_place]
  cases s.checkRow row with
  | error f => exact holds
  | ok _ =>
    cases s.mode with
    | insert => exact h.placeInsert row holds
    | update => exact h.placeUpdate row holds
    | insertOrUpdate => exact h.placeUpsert row holds

theorem write (h : x.Maintains I) (row : Row) (holds : I s t) :
    Ensures (x.write row) s t fun _ s' t' => I s' t' := by
  rw [ensures_write]
  apply (h.place row holds).imp
  intro r s' t' kept
  cases r with
  | error f => exact kept
  | ok outcome =>
    cases outcome with
    | staged => exact h.relieve kept
    | merged => exact kept
    | updated n => exact kept
    | unmatched => exact kept

theorem writeEach (h : x.Maintains I) (count : UInt64) (rows : List Row) (holds : I s t) :
    Ensures (x.writeEach count rows) s t fun _ s' t' => I s' t' := by
  induction rows generalizing count s t with
  | nil => exact holds
  | cons row rest ih =>
    rw [ensures_writeEach_cons]
    apply (h.write row holds).imp
    intro r s' t' kept
    cases r with
    | error f => exact kept
    | ok outcome => exact ih (count + 1) kept

theorem writeAll (h : x.Maintains I) (rows : List Row) (holds : I s t) :
    Ensures (x.writeAll rows) s t fun _ s' t' => I s' t' := by
  by_cases inserts : s.mode = .insert
  · rw [ensures_writeAll inserts]
    apply (h.flush holds).imp
    intro r s' t' kept
    cases r with
    | error f => exact kept
    | ok n =>
      dsimp only
      split
      · exact kept
      · rename_i new _
        by_cases nothing : new = []
        · rw [if_pos nothing]
          exact kept
        · rw [if_neg nothing]
          apply (h.load s' t' new kept).imp
          intro r t'' kept
          cases r with
          | ok n => exact h.holding s' t'' s'.staging s'.update _ kept
          | error f => exact kept
  · rw [ensures_writeAll_each inserts]
    exact h.writeEach 0 rows holds

theorem perform (h : x.Maintains I) (command : Command) (holds : I s t) :
    Ensures (x.perform command) s t fun _ s' t' => I s' t' := by
  have replied {α : Type} {step : Writing σ α} {reply : α → Reply}
      (kept : Ensures step s t fun _ s' t' => I s' t') :
      Ensures (step >>= fun a => pure (reply a)) s t fun _ s' t' => I s' t' := by
    rw [ensures_bind]
    apply kept.imp
    intro r s' t' kept
    cases r <;> exact kept
  cases command with
  | write row => exact replied (h.write row holds)
  | writeAll rows => exact replied (h.writeAll rows holds)
  | flush => exact replied (h.flush holds)

theorem performAll (h : x.Maintains I) (commands : List Command) (holds : I s t) :
    Ensures (x.performAll commands) s t fun _ s' t' => I s' t' := by
  induction commands generalizing s t with
  | nil => exact holds
  | cons command rest ih =>
    simp only [Backend.performAll, ensures_bind, ensures_outcome, ensures_pure]
    apply (h.perform command holds).imp
    intro r s' t' kept
    apply (ih kept).imp
    intro r s'' t'' kept
    cases r <;> exact kept

end Backend.Maintains

end SqlScribe

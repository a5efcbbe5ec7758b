import SqlScribe.Proofs.Lexing.Expressions
import SqlScribe.Proofs.Statement.Placeholders

/-!
# Steps that write alike

Two steps that inline their values write alike if they are refused for the same fault, or if what
the one writes corresponds to what the other does.
-/

namespace SqlScribe

open Text Lexing

/-- The second buffer is the first one with a text behind it. -/
structure Buffer.Adds (b m : Buffer) (s : String) : Prop where
  mode : m.mode = b.mode
  sql : m.sql = b.sql ++ s

theorem Buffer.Adds.trans {b m n : Buffer} {s t : String} (h : b.Adds m s) (h' : m.Adds n t) :
    b.Adds n (s ++ t) := by
  constructor
  · rw [h'.mode, h.mode]
  · rw [h'.sql, h.sql, String.append_assoc]

theorem Buffer.Adds.nothing (b : Buffer) : b.Adds b "" := ⟨rfl, String.append_empty.symm⟩

namespace Emit

/-- With inlined values the steps are refused for the same fault, or they write what corresponds. -/
def Parallel (marks : Option NameMarks) (e e' : Edge) (step step' : Emit Unit) : Prop :=
  ∀ b b' : Buffer, b.mode = .inline → b'.mode = .inline →
    (∃ fault m m', step.run.run b = (.error fault, m) ∧ step'.run.run b' = (.error fault, m')) ∨
    ∃ m m' s t, step.run.run b = (.ok (), m) ∧ step'.run.run b' = (.ok (), m') ∧
      b.Adds m s ∧ b'.Adds m' t ∧ Alike marks e e' s t

namespace Parallel

variable {marks : Option NameMarks} {e e' middle : Edge} {d : Dialect} {s t : String}
  {step step' next next' : Emit Unit}

theorem nothing (e : Edge) : Parallel marks e e (pure ()) (pure ()) := by
  intro b b' _ _
  exact .inr ⟨b, b', "", "", rfl, rfl, .nothing b, .nothing b', Carries.nothing e⟩

theorem text (related : Alike marks e e' s t) :
    Parallel marks e e' (Emit.text s) (Emit.text t) := by
  intro b b' _ _
  have adds (b : Buffer) (s : String) : b.Adds (b.add (fun _ => "") (.text s)) s :=
    ⟨rfl, Buffer.sql_add_text _ b s⟩
  exact .inr ⟨_, _, s, t, rfl, rfl, adds b s, adds b' t, related⟩

/-- The same glue on both sides. -/
theorem last (proper : Proper marks) (s : String) (glue : isGlue s = true) :
    Parallel marks e e' (Emit.text s) (Emit.text s) := text (Alike.glue proper s glue)

/-- A cap writes nothing. -/
theorem cap (e : Edge) (rows : Nat) : Parallel marks e e (Emit.cap rows) (Emit.cap rows) := by
  intro b b' _ _
  have adds (b : Buffer) : b.Adds { b with maxRows := some rows } "" :=
    ⟨rfl, String.append_empty.symm⟩
  exact .inr ⟨_, _, "", "", rfl, rfl, adds b, adds b', Carries.nothing e⟩

theorem refuse (fault : Fault) :
    Parallel marks e e' (Emit.attempt (.error fault)) (Emit.attempt (.error fault)) := by
  intro b b' _ _
  exact .inl ⟨fault, b, b', rfl, rfl⟩

theorem seq (first : Parallel marks e middle step step')
    (then_next : Parallel marks middle e' next next') :
    Parallel marks e e' (do step; next) (do step'; next') := by
  intro b b' inline inline'
  rw [Emit.run_bind, Emit.run_bind]
  obtain ⟨fault, m, m', left, right⟩ | ⟨m, m', s, t, left, right, adds, adds', related⟩ :=
    first b b' inline inline'
  · rw [left, right]
    exact .inl ⟨fault, m, m', rfl, rfl⟩
  · rw [left, right]
    obtain stopped | ⟨n, n', u, v, last, last', more, more', others⟩ :=
      then_next m m' (adds.mode.trans inline) (adds'.mode.trans inline')
    · exact .inl stopped
    · exact .inr ⟨n, n', s ++ u, t ++ v, last, last', adds.trans more, adds'.trans more',
        related.append others⟩

/-- Glue in front. -/
theorem glue (proper : Proper marks) (glue : isGlue s = true)
    (then_next : Parallel marks .clear e' next next') :
    Parallel marks e e' (do Emit.text s; next) (do Emit.text s; next') :=
  (last proper s glue).seq then_next

/-- Operands in front. -/
theorem operand (related : Operand marks s t) (then_next : Parallel marks .any e' next next') :
    Parallel marks .clear e' (do Emit.text s; next) (do Emit.text t; next') :=
  (text related).seq then_next

/-- Results that both need. -/
theorem attempt {α β : Type} {R : α → β → Prop} {r : Except Fault α} {r' : Except Fault β}
    {next : α → Emit Unit} {next' : β → Emit Unit} (outcome : SameOutcome R r r')
    (h : ∀ a a', R a a' → Parallel marks e e' (next a) (next' a')) :
    Parallel marks e e' (Emit.attempt r >>= next) (Emit.attempt r' >>= next') := by
  cases outcome with
  | ok related => exact h _ _ related
  | error fault => exact refuse fault

theorem branch {c : Prop} [Decidable c] (h : c → Parallel marks e e' step step')
    (h' : ¬ c → Parallel marks e e' next next') :
    Parallel marks e e' (if c then step else next) (if c then step' else next') := by
  by_cases holds : c
  · rw [if_pos holds, if_pos holds]
    exact h holds
  · rw [if_neg holds, if_neg holds]
    exact h' holds

/-- Glue that is written or left out in front. -/
theorem optional (proper : Proper marks) {c : Prop} [Decidable c] (glue : isGlue s = true)
    (then_next : Parallel marks .clear e' next next') :
    Parallel marks .clear e' (if c then (do Emit.text s; next) else next)
      (if c then (do Emit.text s; next') else next') :=
  branch (fun _ => .glue proper glue then_next) fun _ => then_next

/-- Values are literals, and those of texts correspond. -/
theorem value {v w : Value} {type type' : ColumnType}
    (literals : SameOutcome (Operand marks) (d.literal v type) (d.literal w type')) :
    Parallel marks .clear .any (Emit.value d v type) (Emit.value d w type') := by
  intro b b' inline inline'
  have inlined (v : Value) (type : ColumnType) {b : Buffer} (inline : b.mode = .inline) :
      (Emit.value d v type).run.run b =
        (Emit.attempt (d.literal v type) >>= Emit.text).run.run b := by
    rw [Emit.run_value, inline, Dialect.valuePiece]
    cases d.literal v type <;> rfl
  rw [inlined v type inline, inlined w type' inline']
  exact attempt literals (fun _ _ related => text related) b b' inline inline'

/-- Steps with glue between neighbours. -/
theorem separated (proper : Proper marks) (sep : String) (glue : isGlue sep = true)
    {steps steps' : List (Emit Unit)}
    (h : List.Forall₂ (Parallel marks .clear .any) steps steps') :
    Parallel marks .clear .any (Emit.separated sep steps) (Emit.separated sep steps') := by
  induction h with
  | nil =>
    intro b b' _ _
    exact .inr ⟨b, b', "", "", rfl, rfl, .nothing b, .nothing b',
      Operand.code proper (fun _ member => nomatch member)⟩
  | cons first others ih =>
    cases others with
    | nil => exact first
    | cons _ _ => exact first.seq (.glue proper glue ih)

theorem junction (closes : d.Closes marks) (sep : String) (empty : Bool)
    (glue : isGlue sep = true) {steps steps' : List (Emit Unit)}
    (h : List.Forall₂ (Parallel marks .clear .any) steps steps') :
    Parallel marks .clear .any (Emit.junction d sep empty steps)
      (Emit.junction d sep empty steps') := by
  have all := separated closes.proper sep glue h
  cases h with
  | nil => exact text (closes.calls.truth empty)
  | cons _ others =>
    cases others with
    | nil => exact all
    | cons _ _ => exact .glue closes.proper rfl (all.seq (last closes.proper ")" rfl))

/-- Two whole steps that write like a third one are refused for the same fault, or they come down
to the question of their length, with the same tokens apart from what stands in texts. -/
theorem compile {common : Emit Unit} (h : Parallel marks .clear .any step common)
    (h' : Parallel marks .clear .any step' common) :
    (∃ fault, Emit.compile d .inline step = .error fault ∧
      Emit.compile d .inline step' = .error fault) ∨
    ∃ m m' : Buffer, Emit.compile d .inline step = m.finish d ∧
      Emit.compile d .inline step' = m'.finish d ∧
      List.Forall₂ Token.Agree (tokens marks m.sql) (tokens marks m'.sql) := by
  have whole {m : Buffer} {s : String} (adds : (Buffer.empty .inline).Adds m s) : m.sql = s := by
    rw [adds.sql]
    exact String.empty_append
  unfold Emit.compile
  have run := h (.empty .inline) (.empty .inline) rfl rfl
  have run' := h' (.empty .inline) (.empty .inline) rfl rfl
  generalize step.run.run (.empty .inline) = r at run ⊢
  generalize step'.run.run (.empty .inline) = r' at run' ⊢
  generalize common.run.run (.empty .inline) = c at run run'
  obtain ⟨fault, m, n, rfl, rfl⟩ | ⟨m, n, s, u, rfl, rfl, adds, ends, related⟩ := run
  · obtain ⟨_, m', _, rfl, ⟨⟩⟩ | ⟨_, _, _, _, _, ⟨⟩, _⟩ := run'
    exact .inl ⟨fault, rfl, rfl⟩
  · obtain ⟨_, _, _, _, ⟨⟩⟩ | ⟨m', _, t, u', rfl, ⟨⟩, adds', ends', related'⟩ := run'
    obtain rfl : u = u' := (whole ends).symm.trans (whole ends')
    refine .inr ⟨m, m', rfl, rfl, ?_⟩
    rw [whole adds, whole adds']
    exact Token.agree_of_common related.tokens related'.tokens

end Parallel

end Emit

end SqlScribe

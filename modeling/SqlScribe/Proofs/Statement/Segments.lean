import SqlScribe.Proofs.Statement.Placeholders
import SqlScribe.Proofs.Statement.Refilling

/-!
# Segments that steps write

Which segments a step adds to a buffer, told from the segments that its parts add.
-/

namespace SqlScribe

open Emit

namespace Segment

/-- Lists of segments with a text between neighbours. -/
def joined (sep : String) : List (List Segment) → List Segment
  | [] => []
  | [segments] => segments
  | segments :: rest => segments ++ .text sep :: joined sep rest

/-- Conditions that all have to hold. One alone has no parentheses. -/
def conjoined (d : Dialect) : List (List Segment) → List Segment
  | [] => [.text (d.truth true)]
  | [only] => only
  | first :: second :: rest =>
    .text "(" :: (joined " AND " (first :: second :: rest) ++ [.text ")"])

/-- A condition in parentheses if the dialect wants them. -/
def enclosed (d : Dialect) (condition : List Segment) : List Segment :=
  if d.features.parenthesizeFilters then .text "(" :: (condition ++ [.text ")"]) else condition

/-- The segment stands for a value: it is a marker where the dialect binds values of the type, and
the literal of the value elsewhere. -/
inductive StandsFor (d : Dialect) (v : Value) (type : ColumnType) : Segment → Prop
  | literal {t : String} (inlines : d.binds type = false) (written : d.literal v type = .ok t) :
    StandsFor d v type (.text t)
  | marker (binds : d.binds type = true) (mark : String) : StandsFor d v type (.marker mark)

end Segment

/-- Whatever the step writes in a mode, the segments that it adds are such. -/
def Emit.Adds (mode : ParamMode) (step : Emit Unit) (P : List Segment → Prop) : Prop :=
  ∀ b b', b.mode = mode → Writes step b b' → b'.mode = mode ∧
    ∃ added, b'.segments.toList = b.segments.toList ++ added ∧ P added

namespace Emit.Adds

variable {d : Dialect} {mode : ParamMode} {α β : Type} {step next : Emit Unit}
  {P Q : List Segment → Prop}

theorem mono (h : Adds mode step P) (weaker : ∀ added, P added → Q added) : Adds mode step Q := by
  intro b b' same written
  obtain ⟨same', added, segments, holds⟩ := h b b' same written
  exact ⟨same', added, segments, weaker added holds⟩

theorem nothing : Adds mode (pure ()) (· = []) := by
  rintro b b' same ⟨⟩
  exact ⟨same, [], (List.append_nil _).symm, rfl⟩

theorem text (s : String) : Adds mode (Emit.text s) (· = [.text s]) := by
  rintro b b' same ⟨⟩
  exact ⟨same, [.text s], Array.toList_push, rfl⟩

theorem seq (first : Adds mode step P) (then_next : Adds mode next Q) :
    Adds mode (do step; next) fun added => ∃ before after, P before ∧ Q after ∧
      added = before ++ after := by
  intro b b' same written
  obtain ⟨m, earlier, later⟩ := (writes_seq step next b b').mp written
  obtain ⟨same', before, segments, holds⟩ := first b m same earlier
  obtain ⟨same'', after, segments', holds'⟩ := then_next m b' same' later
  refine ⟨same'', before ++ after, ?_, before, after, holds, holds', rfl⟩
  rw [segments', segments, List.append_assoc]

/-- A text in front. -/
theorem cons {s : String} (then_next : Adds mode next Q) :
    Adds mode (do Emit.text s; next) fun added => ∃ after, Q after ∧ added = .text s :: after := by
  refine ((text s).seq then_next).mono ?_
  rintro _ ⟨_, after, rfl, holds, rfl⟩
  exact ⟨after, holds, rfl⟩

/-- A step that needs a result adds what it adds with that result. -/
theorem attempt {r : Except Fault α} {next : α → Emit Unit} {P : α → List Segment → Prop}
    (h : ∀ a, Adds mode (next a) (P a)) :
    Adds mode (Emit.attempt r >>= next) fun added => ∃ a, r = .ok a ∧ P a added := by
  intro b b' same written
  obtain ⟨a, result, later⟩ := writes_attempt.mp written
  obtain ⟨same', added, segments, holds⟩ := h a b b' same later
  exact ⟨same', added, segments, a, result, holds⟩

/-- A value, where the dialect has its way. -/
theorem value (d : Dialect) (v : Value) (type : ColumnType) :
    Adds d.preferredMode (Emit.value d v type) fun added =>
      ∃ x, Segment.StandsFor d v type x ∧ added = [x] := by
  intro b b' same written
  obtain ⟨p, piece, rfl⟩ := writes_value.mp written
  rw [same] at piece
  refine ⟨(Buffer.mode_add _ b p).trans same, ?_⟩
  by_cases binds : d.binds type = true
  · rw [Dialect.valuePiece_of_binds binds, map_eq_ok_iff] at piece
    obtain ⟨q, -, rfl⟩ := piece
    exact ⟨[.marker _], Array.toList_push, _, .marker binds _, rfl⟩
  · rw [Bool.not_eq_true] at binds
    rw [Dialect.valuePiece_of_not_binds binds, map_eq_ok_iff] at piece
    obtain ⟨t, literal, rfl⟩ := piece
    exact ⟨[.text t], Array.toList_push, _, .literal binds literal, rfl⟩

/-- Steps with a text between neighbours add what each of them adds. -/
theorem separated {P : α → β → Prop} {form : β → List Segment} (sep : String) {xs : List α}
    {steps : List (Emit Unit)}
    (h : List.Forall₂ (fun x step => Adds mode step fun added => ∃ y, P x y ∧ added = form y)
      xs steps) :
    Adds mode (Emit.separated sep steps) fun added =>
      ∃ ys, List.Forall₂ P xs ys ∧ added = Segment.joined sep (ys.map form) := by
  induction h with
  | nil => exact nothing.mono fun added none => ⟨[], .nil, none⟩
  | @cons x step xs steps first rest ih =>
    cases rest with
    | nil =>
      refine first.mono ?_
      rintro _ ⟨y, holds, rfl⟩
      exact ⟨[y], .cons holds .nil, rfl⟩
    | @cons x' second xs steps here later =>
      refine (first.seq (cons ih)).mono ?_
      rintro _ ⟨_, _, ⟨y, holds, rfl⟩, ⟨_, ⟨ys, all, rfl⟩, rfl⟩, rfl⟩
      obtain ⟨y', ys, one, others, rfl⟩ := List.forall₂_cons_left_iff.mp all
      exact ⟨y :: y' :: ys, .cons holds (.cons one others), rfl⟩

theorem conjunction {P : α → β → Prop} {form : β → List Segment} {xs : List α}
    {steps : List (Emit Unit)}
    (h : List.Forall₂ (fun x step => Adds mode step fun added => ∃ y, P x y ∧ added = form y)
      xs steps) :
    Adds mode (Emit.junction d " AND " true steps) fun added =>
      ∃ ys, List.Forall₂ P xs ys ∧ added = Segment.conjoined d (ys.map form) := by
  have all := separated " AND " h
  match xs, steps, h with
  | [], [], _ => exact (text (d.truth true)).mono fun added truth => ⟨[], .nil, truth⟩
  | [_], [_], .cons first .nil =>
    refine first.mono ?_
    rintro _ ⟨y, holds, rfl⟩
    exact ⟨[y], .cons holds .nil, rfl⟩
  | _ :: _ :: _, _ :: _ :: _, h =>
    refine (cons (all.seq (text ")"))).mono ?_
    rintro _ ⟨_, ⟨_, _, ⟨ys, all, rfl⟩, rfl, rfl⟩, rfl⟩
    obtain ⟨y, _, one, later, rfl⟩ := List.forall₂_cons_left_iff.mp all
    obtain ⟨y', ys, two, others, rfl⟩ := List.forall₂_cons_left_iff.mp later
    exact ⟨y :: y' :: ys, .cons one (.cons two others), rfl⟩

theorem enclosed (h : Adds mode step P) :
    Adds mode (Emit.enclosed d step) fun added =>
      ∃ inner, P inner ∧ added = Segment.enclosed d inner := by
  unfold Emit.enclosed Segment.enclosed
  by_cases wanted : d.features.parenthesizeFilters = true
  · simp only [if_pos wanted]
    refine (cons (h.seq (text ")"))).mono ?_
    rintro _ ⟨_, ⟨inner, _, holds, rfl, rfl⟩, rfl⟩
    exact ⟨inner, holds, rfl⟩
  · simp only [if_neg wanted]
    exact h.mono fun added holds => ⟨added, holds, rfl⟩

/-- The segments of a statement are those that its step adds. -/
theorem segments_of_compile (h : Adds mode step P) {s : Statement}
    (compiled : Emit.compile d mode step = .ok s) : P s.segments := by
  obtain ⟨-, added, segments, holds⟩ := h _ _ rfl (writes_of_compile compiled)
  rw [Buffer.eq_of_finish (finish_of_compile compiled), segments]
  exact holds

end Emit.Adds

end SqlScribe

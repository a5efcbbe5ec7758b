import SqlScribe.Statement

/-!
# Scripts

No step of a statement looks at what was written before it. Such a step is a list of instructions,
and what these add to a buffer depends on the dialect and the mode alone: not on what the buffer
holds, and not on the marks that stand for parameters.
-/

namespace SqlScribe

open Emit

theorem map_eq_ok_iff {ε α β : Type} {f : α → β} {r : Except ε α} {b : β} :
    r.map f = .ok b ↔ ∃ a, r = .ok a ∧ f a = b := by
  cases r <;> simp [Except.map]

theorem bind_eq_ok_iff {ε α β : Type} {r : Except ε α} {f : α → Except ε β} {b : β} :
    r >>= f = .ok b ↔ ∃ a, r = .ok a ∧ f a = .ok b := by
  cases r <;> simp [bind, Except.bind]

/-- The dialect with other marks for parameters. -/
def Dialect.withMarks (d : Dialect) (mark : Nat → String) : Dialect := { d with placeholder := mark }

/-- One thing that a step does. -/
inductive Instruction
  | text (s : String)
  | value (v : Value) (type : ColumnType)
  | cap (rows : Nat)
  | refuse (fault : Fault)

namespace Instruction

def emit (d : Dialect) : Instruction → Emit Unit
  | text s => Emit.text s
  | value v type => Emit.value d v type
  | cap rows => Emit.cap rows
  | refuse fault => attempt (.error fault)

/-- Carries out instructions one after the other. -/
def emitAll (d : Dialect) : List Instruction → Emit Unit
  | [] => pure ()
  | i :: rest => do
    i.emit d
    emitAll d rest

theorem emitAll_append (d : Dialect) (script more : List Instruction) :
    emitAll d (script ++ more) = (do emitAll d script; emitAll d more) := by
  induction script with
  | nil => simp [emitAll]
  | cons i rest ih => simp [emitAll, ih]

end Instruction

/-- Something that an instruction adds to a statement. -/
inductive Piece
  | text (s : String)
  | parameter (p : Param)
  | cap (rows : Nat)

namespace Dialect

/-- What a value becomes: a literal or a parameter. -/
def valuePiece (d : Dialect) (mode : ParamMode) (v : Value) (type : ColumnType) :
    Except Fault Piece :=
  match mode with
  | .inline => (d.literal v type).map .text
  | .bind =>
    if !d.features.parameters then d.lacks .parameters
    else if type.isText && !d.features.parameterizedText then (d.literal v type).map .text
    else (d.prepare v type).map fun w => .parameter ⟨w, type⟩

def piece (d : Dialect) (mode : ParamMode) : Instruction → Except Fault Piece
  | .text s => .ok (.text s)
  | .value v type => d.valuePiece mode v type
  | .cap rows => .ok (.cap rows)
  | .refuse fault => .error fault

/-- What a script adds up to its end or its first fault. -/
def pieces (d : Dialect) (mode : ParamMode) : List Instruction → List Piece × Except Fault Unit
  | [] => ([], .ok ())
  | i :: rest =>
    match d.piece mode i with
    | .error fault => ([], .error fault)
    | .ok p => (p :: (d.pieces mode rest).1, (d.pieces mode rest).2)

/-- A script comes to its end if its first instruction adds a piece and the others come to theirs. -/
theorem pieces_cons_eq_ok {d : Dialect} {mode : ParamMode} {i : Instruction}
    {rest : List Instruction} {ps : List Piece} :
    d.pieces mode (i :: rest) = (ps, .ok ()) ↔
      ∃ p qs, d.piece mode i = .ok p ∧ d.pieces mode rest = (qs, .ok ()) ∧ ps = p :: qs := by
  rw [pieces]
  cases d.piece mode i with
  | error fault => simp
  | ok p =>
    constructor
    · intro written
      have others : (d.pieces mode rest).2 = .ok () := congrArg Prod.snd written
      exact ⟨p, (d.pieces mode rest).1, rfl, Prod.ext rfl others, (congrArg Prod.fst written).symm⟩
    · rintro ⟨_, qs, ⟨⟩, later, rfl⟩
      rw [later]

/-- Marks have no part in what is added. -/
theorem pieces_withMarks (d : Dialect) (mark : Nat → String) (mode : ParamMode)
    (script : List Instruction) : (d.withMarks mark).pieces mode script = d.pieces mode script := by
  induction script with
  | nil => rfl
  | cons i rest ih =>
    have same : (d.withMarks mark).piece mode i = d.piece mode i := by cases i <;> rfl
    rw [pieces, pieces, same, ih]

end Dialect

namespace Buffer

/-- Adds a piece; a parameter stands where its mark does. -/
def add (mark : Nat → String) (b : Buffer) : Piece → Buffer
  | .text s => { b with segments := b.segments.push (.text s) }
  | .parameter p =>
    { b with
      segments := b.segments.push (.marker (mark b.params.size))
      params := b.params.push p }
  | .cap rows => { b with maxRows := some rows }

def addAll (mark : Nat → String) (b : Buffer) (ps : List Piece) : Buffer := ps.foldl (add mark) b

theorem mode_add (mark : Nat → String) (b : Buffer) (p : Piece) : (b.add mark p).mode = b.mode := by
  cases p <;> rfl

theorem addAll_cons (mark : Nat → String) (b : Buffer) (p : Piece) (ps : List Piece) :
    b.addAll mark (p :: ps) = (b.add mark p).addAll mark ps := rfl

end Buffer

theorem Emit.run_bind {α β : Type} (step : Emit α) (next : α → Emit β) (b : Buffer) :
    (step >>= next).run.run b =
      match step.run.run b with
      | (.ok a, m) => (next a).run.run m
      | (.error fault, m) => (.error fault, m) := by
  have both : (step >>= next).run.run b =
      (ExceptT.bindCont next (step.run.run b).1 : StateM Buffer _).run (step.run.run b).2 := rfl
  rw [both]
  generalize step.run.run b = done
  obtain ⟨r, m⟩ := done
  cases r <;> rfl

theorem Emit.run_value (d : Dialect) (v : Value) (type : ColumnType) (b : Buffer) :
    (Emit.value d v type).run.run b =
      match d.valuePiece b.mode v type with
      | .ok p => (.ok (), b.add d.placeholder p)
      | .error fault => (.error fault, b) := by
  have looked : (Emit.value d v type).run.run b = (match b.mode with
      | .inline => attempt (d.literal v type) >>= Emit.text
      | .bind =>
        if !d.features.parameters then attempt (d.lacks .parameters)
        else if type.isText && !d.features.parameterizedText then
          attempt (d.literal v type) >>= Emit.text
        else attempt (d.prepare v type) >>= fun w => bound d.placeholder ⟨w, type⟩).run.run b := rfl
  rw [looked]
  unfold Dialect.valuePiece
  cases b.mode with
  | inline =>
    cases d.literal v type <;> rfl
  | bind =>
    dsimp only
    split
    · rfl
    · split
      · cases d.literal v type <;> rfl
      · cases d.prepare v type <;> rfl

theorem Instruction.run_emit (d : Dialect) (i : Instruction) (b : Buffer) :
    (i.emit d).run.run b =
      match d.piece b.mode i with
      | .ok p => (.ok (), b.add d.placeholder p)
      | .error fault => (.error fault, b) := by
  cases i with
  | value v type => exact run_value d v type b
  | text s => rfl
  | cap rows => rfl
  | refuse fault => rfl

theorem Instruction.run_emitAll (d : Dialect) (script : List Instruction) (b : Buffer) :
    (emitAll d script).run.run b =
      ((d.pieces b.mode script).2, b.addAll d.placeholder (d.pieces b.mode script).1) := by
  induction script generalizing b with
  | nil => rfl
  | cons i rest ih =>
    rw [emitAll, run_bind, run_emit, Dialect.pieces]
    cases d.piece b.mode i with
    | error fault => rfl
    | ok p =>
      dsimp only
      rw [ih, Buffer.mode_add, Buffer.addAll_cons]

end SqlScribe

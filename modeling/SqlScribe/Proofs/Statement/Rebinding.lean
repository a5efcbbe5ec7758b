import SqlScribe.Dialect.Builtin
import SqlScribe.Proofs.Statement.Placeholders

/-!
# Other marks for parameters

A statement that is compiled with other marks for parameters is the one that is compiled with the
dialect's own and whose markers are replaced afterwards. Only markers are replaced: a text that
happens to look like one stays as it is.
-/

namespace SqlScribe

open Emit

namespace Piece

/-- The segments of pieces, the next marker being the one of number `next`. -/
def segments (mark : Nat → String) (next : Nat) : List Piece → List Segment
  | [] => []
  | .text s :: rest => .text s :: segments mark next rest
  | .parameter _ :: rest => .marker (mark next) :: segments mark (next + 1) rest
  | .cap _ :: rest => segments mark next rest

def params : List Piece → List Param
  | [] => []
  | .parameter p :: rest => p :: params rest
  | .text _ :: rest | .cap _ :: rest => params rest

/-- The last cap, or the one there was before. -/
def lastCap (before : Option Nat) : List Piece → Option Nat
  | [] => before
  | .cap rows :: rest => lastCap (some rows) rest
  | .text _ :: rest | .parameter _ :: rest => lastCap before rest

/-- The statement that pieces make. -/
def statement (mark : Nat → String) (ps : List Piece) : Statement :=
  ⟨segments mark 0 ps, params ps, lastCap none ps⟩

/-- Replacing the markers afterwards is writing them differently. -/
theorem remark_segments (mark other : Nat → String) (next : Nat) (ps : List Piece) :
    Statement.remark other next (segments mark next ps) = sqlOf (segments other next ps) := by
  induction ps generalizing next with
  | nil => rfl
  | cons p rest ih =>
    cases p <;> simp [segments, Statement.remark, sqlOf_cons, Segment.content, ih]

theorem rebind_statement (mark other : Nat → String) (ps : List Piece) :
    (statement mark ps).rebind other = (statement other ps).sql := remark_segments mark other 0 ps

end Piece

namespace Buffer

theorem addAll_eq (mark : Nat → String) (b : Buffer) (ps : List Piece) :
    b.addAll mark ps =
      ⟨b.mode, b.segments ++ (Piece.segments mark b.params.size ps).toArray,
        b.params ++ (Piece.params ps).toArray, Piece.lastCap b.maxRows ps⟩ := by
  induction ps generalizing b with
  | nil => simp [addAll, Piece.segments, Piece.params, Piece.lastCap]
  | cons p rest ih =>
    rw [addAll_cons, ih]
    cases p <;> simp [add, Piece.segments, Piece.params, Piece.lastCap]

end Buffer

theorem Buffer.statement_of_finish {d : Dialect} {mark : Nat → String} {mode : ParamMode}
    {ps : List Piece} {s : Statement}
    (finished : ((Buffer.empty mode).addAll mark ps).finish d = .ok s) :
    s = Piece.statement mark ps := by
  rw [eq_of_finish finished, addAll_eq]
  simp [Buffer.empty, Piece.statement]

/-- The finished statement is that of the pieces, unless it is too long. -/
theorem Buffer.finish_addAll (d : Dialect) (mark : Nat → String) (mode : ParamMode)
    (ps : List Piece) :
    (0 < d.features.maxStatementLength ∧ ∃ n, d.features.maxStatementLength < n ∧
      ((Buffer.empty mode).addAll mark ps).finish d =
        .error (.statementTooLong n d.features.maxStatementLength)) ∨
    ((Buffer.empty mode).addAll mark ps).finish d = .ok (Piece.statement mark ps) := by
  by_cases long : 0 < d.features.maxStatementLength ∧
      d.features.maxStatementLength < ((Buffer.empty mode).addAll mark ps).length
  · refine .inl ⟨long.1, _, long.2, ?_⟩
    rw [finish, if_pos long]
  · have finished : ((Buffer.empty mode).addAll mark ps).finish d = .ok _ := if_neg long
    exact .inr (finished.trans (congrArg _ (statement_of_finish finished)))

/-- A script is compiled to the statement of its pieces if it comes to its end and the statement is
not too long. -/
theorem Emit.compile_emitAll (d : Dialect) (mode : ParamMode) (script : List Instruction) :
    compile d mode (Instruction.emitAll d script) =
      match d.pieces mode script with
      | (ps, .ok ()) => ((Buffer.empty mode).addAll d.placeholder ps).finish d
      | (_, .error fault) => .error fault := by
  have same_mode : (Buffer.empty mode).mode = mode := rfl
  rw [compile, Instruction.run_emitAll, same_mode]
  generalize d.pieces mode script = written
  obtain ⟨ps, ended⟩ := written
  cases ended <;> rfl

theorem Emit.compile_emitAll_eq_ok {d : Dialect} {mode : ParamMode} {script : List Instruction}
    {s : Statement} :
    compile d mode (Instruction.emitAll d script) = .ok s ↔
      ∃ ps, d.pieces mode script = (ps, .ok ()) ∧
        ((Buffer.empty mode).addAll d.placeholder ps).finish d = .ok s := by
  rw [compile_emitAll]
  generalize d.pieces mode script = written
  obtain ⟨ps, ended⟩ := written
  cases ended with
  | error fault => simp
  | ok _ => simp

/-- Whatever the mode and the marks, the statement is made of the pieces of one script. -/
theorem Descriptor.compile_eq_pieces (d : Dialect) (x : Descriptor) :
    ∃ script, ∀ mode mark, x.compile (d.withMarks mark) mode =
      match d.pieces mode script with
      | (ps, .ok ()) => ((Buffer.empty mode).addAll mark ps).finish d
      | (_, .error fault) => .error fault := by
  obtain ⟨script, written⟩ := x.compile_scripted d
  refine ⟨script, fun mode mark => ?_⟩
  rw [written, compile_emitAll, Dialect.pieces_withMarks]
  rfl

/-- Without a limit a descriptor is refused for the same fault in whatever marks, or it comes out as
the same pieces. -/
theorem Descriptor.compile_pieces {d : Dialect} (unlimited : d.features.maxStatementLength = 0)
    (mode : ParamMode) (x : Descriptor) :
    (∃ fault, ∀ mark, x.compile (d.withMarks mark) mode = .error fault) ∨
      ∃ ps, ∀ mark, x.compile (d.withMarks mark) mode = .ok (Piece.statement mark ps) := by
  obtain ⟨script, compiled⟩ := x.compile_eq_pieces d
  have here := compiled mode
  generalize d.pieces mode script = pieces at here
  obtain ⟨ps, ended⟩ := pieces
  cases ended with
  | error fault => exact .inl ⟨fault, here⟩
  | ok _ =>
    refine .inr ⟨ps, fun mark => ?_⟩
    rw [here]
    obtain ⟨limited, -⟩ | finished := Buffer.finish_addAll d mark mode ps
    · omega
    · exact finished

/-- A dialect without a limit on the length of statements compiles with other marks what it
compiles with its own. The text is then that of its own statement with the markers replaced, which
is that statement's text cut at its spans, where its placeholders stand and nothing else. -/
theorem Descriptor.compile_withMarks {d : Dialect} (unlimited : d.features.maxStatementLength = 0)
    (mark : Nat → String) (mode : ParamMode) (x : Descriptor) :
    (∀ fault, x.compile (d.withMarks mark) mode = .error fault ↔
      x.compile d mode = .error fault) ∧
    ∀ s, x.compile d mode = .ok s →
      (∃ s', x.compile (d.withMarks mark) mode = .ok s' ∧ s'.sql = s.rebind mark ∧
        s'.params = s.params ∧ s'.maxRows = s.maxRows) ∧
      s.rebind d.placeholder = s.sql ∧
      Matched d s.sql s.spans s.params ∧
      (s.rebind mark).toByteArray = splice s.sql mark 0 0 s.spans := by
  have own : d.withMarks d.placeholder = d := rfl
  obtain ⟨fault, refused⟩ | ⟨ps, written⟩ := x.compile_pieces unlimited mode
  · have here := refused d.placeholder
    rw [own] at here
    refine ⟨fun other => by rw [refused, here], fun s compiled => ?_⟩
    rw [here] at compiled
    cases compiled
  · have here := written d.placeholder
    rw [own] at here
    refine ⟨fun other => by simp [written, here], fun s compiled => ?_⟩
    rw [here] at compiled
    obtain rfl : Piece.statement d.placeholder ps = s := Except.ok.inj compiled
    refine ⟨⟨Piece.statement mark ps, written mark, ?_, rfl, rfl⟩, ?_, ?_, ?_⟩
    · exact (Piece.rebind_statement d.placeholder mark ps).symm
    · exact Piece.rebind_statement d.placeholder d.placeholder ps
    · exact (matched_of_compile here).1
    · exact (Statement.splice_spans _ mark).symm

/-- A literal and a column that look like placeholders, each beside a real one. -/
def lookalikes : Filter :=
  .and [
    .compare (.function .upper [.constant ⟨.string "'@P1", .string⟩]) .eq ⟨.string "a", .string⟩
      false,
    .compare (.column ⟨["@P2"]⟩) .lt (.ofInt 7) false]

def lookalikesStatement : Statement where
  segments := [.text "(", .text "UPPER('''@P1')", .text " = ", .marker "@P1", .text " AND ",
    .text "\"@P2\"", .text " < ", .marker "@P2", .text ")"]
  params := [⟨.string "a", .string⟩, ⟨.int 7, .integer⟩]
  maxRows := none

/-- Only the placeholders are replaced. -/
theorem Descriptor.compile_withMarks_lookalikes :
    ∃ s, (filter lookalikes).compile (Builtin.postgres.dialect.withMarks fun _ => "?") .bind =
      .ok s ∧ s.sql = "(UPPER('''@P1') = ? AND \"@P2\" < ?)" := by
  have compiled : (filter lookalikes).compile Builtin.postgres.dialect .bind =
      .ok lookalikesStatement := by
    decide +kernel
  obtain ⟨-, equal⟩ := compile_withMarks (d := Builtin.postgres.dialect) rfl (fun _ => "?") .bind
    (filter lookalikes)
  obtain ⟨⟨s, rewritten, text, -⟩, -⟩ := equal lookalikesStatement compiled
  exact ⟨s, rewritten, text.trans (by decide +kernel)⟩

end SqlScribe

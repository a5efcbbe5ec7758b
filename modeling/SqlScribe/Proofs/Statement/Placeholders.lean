import SqlScribe.Dialect.Builtin
import SqlScribe.Proofs.Statement.Descriptor
import SqlScribe.Proofs.Statement.Spans

/-!
# Placeholders and parameters

Whatever is written to a buffer, in whatever order and however often it fails half-way, the `i`-th
placeholder in the text is the dialect's placeholder for the `i`-th parameter.
-/

namespace SqlScribe

open Emit

/-- There are as many spans as parameters, they stand in the text one behind the other, and the
`i`-th of them holds the dialect's `i`-th placeholder. -/
structure Matched (d : Dialect) (sql : String) (spans : List Span) (params : List Param) :
    Prop where
  length_eq : spans.length = params.length
  within : ∀ span ∈ spans, span.1 ≤ span.2 ∧ span.2 ≤ sql.utf8ByteSize
  apart : spans.Pairwise fun a b => a.2 ≤ b.1
  reads : ∀ i span, spans[i]? = some span → span.read sql = (d.placeholder i).toByteArray

/-- The markers of segments are the placeholders of so many parameters. -/
def Segment.Marked (d : Dialect) (segments : List Segment) (params : List Param) : Prop :=
  markers segments = (List.range params.length).map d.placeholder

theorem Segment.Marked.matched {d : Dialect} {segments : List Segment} {params : List Param}
    (h : Marked d segments params) : Matched d (sqlOf segments) (spansFrom 0 segments) params where
  length_eq := by
    rw [length_spansFrom, h, List.length_map, List.length_range]
  within span member := by
    have inside := spansFrom_within member
    omega
  apart := spansFrom_pairwise 0 segments
  reads i span found := by
    obtain ⟨s, marker, reads⟩ := read_spansFrom "" found
    rw [h, List.getElem?_map, Option.map_eq_some_iff] at marker
    obtain ⟨j, place, rfl⟩ := marker
    obtain ⟨_, rfl⟩ := List.getElem?_eq_some_iff.mp place
    rwa [String.empty_append, List.getElem_range] at reads

namespace Buffer

/-- Every marker is the placeholder of its parameter, and nothing is bound where values are
inlined. -/
structure Sound (d : Dialect) (b : Buffer) : Prop where
  marked : Segment.Marked d b.segments.toList b.params.toList
  inlined : b.mode = .inline → b.params = #[]

theorem empty_sound (d : Dialect) (mode : ParamMode) : (Buffer.empty mode).Sound d :=
  ⟨rfl, fun _ => rfl⟩

/-- What was there is kept, and something may have come behind it. -/
structure Extends (b' b : Buffer) : Prop where
  mode : b'.mode = b.mode
  sql : ∃ more, b'.sql = b.sql ++ more
  spans : b.spans <+: b'.spans
  params : b.params.toList <+: b'.params.toList

theorem Extends.refl (b : Buffer) : b.Extends b :=
  ⟨rfl, ⟨"", String.append_empty.symm⟩, List.prefix_rfl, List.prefix_rfl⟩

theorem Extends.trans {b b' b'' : Buffer} (h : b''.Extends b') (h' : b'.Extends b) :
    b''.Extends b where
  mode := h.mode.trans h'.mode
  sql := by
    obtain ⟨more, later⟩ := h.sql
    obtain ⟨first, before⟩ := h'.sql
    exact ⟨first ++ more, by rw [later, before, String.append_assoc]⟩
  spans := h'.spans.trans h.spans
  params := h'.params.trans h.params

theorem Sound.add {d : Dialect} {b : Buffer} (h : b.Sound d) {p : Piece}
    (inlined : b.mode = .inline → ∀ q, p ≠ .parameter q) : (b.add d.placeholder p).Sound d := by
  obtain ⟨marked, unbound⟩ := h
  unfold Segment.Marked at marked
  cases p with
  | text s =>
    refine ⟨?_, unbound⟩
    simp [Segment.Marked, Buffer.add, Segment.markers_append, Segment.markers, marked]
  | parameter p =>
    refine ⟨?_, fun mode => absurd rfl (inlined mode p)⟩
    simp [Segment.Marked, Buffer.add, Segment.markers_append, Segment.markers, marked,
      List.range_succ]
  | cap rows => exact ⟨marked, unbound⟩

theorem sql_add_text (mark : Nat → String) (b : Buffer) (s : String) :
    (b.add mark (.text s)).sql = b.sql ++ s := by
  simp [sql, Buffer.add, sqlOf_append, sqlOf_cons, sqlOf_nil, Segment.content]

theorem spans_add_text (mark : Nat → String) (b : Buffer) (s : String) :
    (b.add mark (.text s)).spans = b.spans := by
  simp [spans, Buffer.add, Segment.spansFrom_append, Segment.spansFrom]

theorem sql_add_parameter (mark : Nat → String) (b : Buffer) (p : Param) :
    (b.add mark (.parameter p)).sql = b.sql ++ mark b.params.size := by
  simp [sql, Buffer.add, sqlOf_append, sqlOf_cons, sqlOf_nil, Segment.content]

theorem spans_add_parameter (mark : Nat → String) (b : Buffer) (p : Param) :
    (b.add mark (.parameter p)).spans =
      b.spans ++ [(b.sql.utf8ByteSize, (b.add mark (.parameter p)).sql.utf8ByteSize)] := by
  simp [spans, sql, Buffer.add, Segment.spansFrom_append, Segment.spansFrom, sqlOf_append,
    String.utf8ByteSize_append, sqlOf_cons, sqlOf_nil, Segment.content]

theorem add_extends (mark : Nat → String) (b : Buffer) (p : Piece) : (b.add mark p).Extends b := by
  cases p with
  | text s =>
    refine ⟨rfl, ⟨s, sql_add_text mark b s⟩, ⟨[], ?_⟩, List.prefix_rfl⟩
    rw [List.append_nil, spans_add_text]
  | parameter p =>
    refine ⟨rfl, ⟨_, sql_add_parameter mark b p⟩, ⟨_, (spans_add_parameter mark b p).symm⟩, ?_⟩
    simp [Buffer.add]
  | cap rows =>
    exact ⟨rfl, ⟨"", String.append_empty.symm⟩, List.prefix_rfl, List.prefix_rfl⟩

end Buffer

namespace Instruction

variable {d : Dialect}

theorem inline_piece {i : Instruction} {p : Piece} (h : d.piece .inline i = .ok p) :
    ∀ q, p ≠ .parameter q := by
  rintro q rfl
  cases i with
  | value v type =>
    obtain ⟨s, -, other⟩ := map_eq_ok_iff.mp h
    cases other
  | text s | cap rows | refuse fault => cases h

theorem emit_sound (i : Instruction) {b : Buffer} (h : b.Sound d) :
    ((i.emit d).run.run b).2.Sound d := by
  rw [run_emit]
  cases written : d.piece b.mode i with
  | error fault => exact h
  | ok p => exact h.add fun mode => inline_piece (mode ▸ written)

theorem emit_extends (i : Instruction) (b : Buffer) : ((i.emit d).run.run b).2.Extends b := by
  rw [run_emit]
  cases d.piece b.mode i with
  | error fault => exact Buffer.Extends.refl b
  | ok p => exact b.add_extends d.placeholder p

/-- What every instruction keeps a script keeps, wherever it fails. -/
theorem emitAll_keeps {P : Buffer → Prop} (step : ∀ i b, P b → P ((emit d i).run.run b).2)
    (script : List Instruction) {b : Buffer} (h : P b) : P ((emitAll d script).run.run b).2 := by
  induction script generalizing b with
  | nil => exact h
  | cons i rest ih =>
    have first := step i b h
    rw [emitAll, run_bind]
    generalize (emit d i).run.run b = done at first
    obtain ⟨r, m⟩ := done
    cases r with
    | error fault => exact first
    | ok _ => exact ih first

end Instruction

namespace Emit.Scripted

variable {d : Dialect} {step : (Nat → String) → Emit Unit}

theorem sound (h : Scripted d step) {b : Buffer} (before : b.Sound d) :
    ((step d.placeholder).run.run b).2.Sound d := by
  obtain ⟨script, written⟩ := h
  rw [written]
  exact Instruction.emitAll_keeps (fun i _ => i.emit_sound) script before

theorem grows (h : Scripted d step) (b : Buffer) :
    ((step d.placeholder).run.run b).2.Extends b := by
  obtain ⟨script, written⟩ := h
  rw [written]
  exact Instruction.emitAll_keeps (P := (·.Extends b))
    (fun i m before => (i.emit_extends m).trans before) script (Buffer.Extends.refl b)

end Emit.Scripted

/-- A call on a buffer. -/
inductive Call
  | text (s : String)
  | char (c : Char)
  | value (v : Value) (type : ColumnType)
  | filter (f : Filter)
  | select (q : Select)

namespace Call

def emit (d : Dialect) : Call → Emit Unit
  | text s => Emit.text s
  | char c => Emit.text (.singleton c)
  | value v type => Emit.value d v type
  | filter f => f.emit d
  | select q => q.emit d

theorem emit_scripted (d : Dialect) (call : Call) :
    Scripted d fun mark => call.emit (d.withMarks mark) := by
  cases call with
  | text s => exact .text d s
  | char c => exact .text d _
  | value v type => exact .value d v type
  | filter f => exact f.emit_scripted d
  | select q => exact q.emit_scripted d

/-- How a call ends, and the buffer it leaves behind. -/
def run (d : Dialect) (b : Buffer) (call : Call) : Except Fault Unit × Buffer :=
  (call.emit d).run.run b

end Call

/-- The buffer after calls, those that fail half-way among them. -/
def Buffer.after (d : Dialect) (b : Buffer) (calls : List Call) : Buffer :=
  calls.foldl (fun b call => (call.run d b).2) b

theorem Buffer.Sound.after {d : Dialect} {b : Buffer} (h : b.Sound d) (calls : List Call) :
    (b.after d calls).Sound d := by
  induction calls generalizing b with
  | nil => exact h
  | cons call rest ih => exact ih ((call.emit_scripted d).sound h)

theorem Buffer.mode_after (d : Dialect) (b : Buffer) (calls : List Call) :
    (b.after d calls).mode = b.mode := by
  induction calls generalizing b with
  | nil => rfl
  | cons call rest ih => exact (ih _).trans ((call.emit_scripted d).grows b).mode

theorem Emit.finish_of_compile {d : Dialect} {mode : ParamMode} {step : Emit Unit} {s : Statement}
    (h : compile d mode step = .ok s) : (step.run.run (.empty mode)).2.finish d = .ok s := by
  unfold compile at h
  split at h
  · rename_i ended
    rwa [ended]
  · cases h

/-- A step that is compiled comes to its end. -/
theorem Emit.writes_of_compile {d : Dialect} {mode : ParamMode} {step : Emit Unit} {s : Statement}
    (h : compile d mode step = .ok s) :
    Writes step (.empty mode) (step.run.run (.empty mode)).2 := by
  unfold compile at h
  split at h
  · rename_i ended
    rw [Writes, ended]
  · cases h

theorem Buffer.eq_of_finish {d : Dialect} {b : Buffer} {s : Statement} (h : b.finish d = .ok s) :
    s = ⟨b.segments.toList, b.params.toList, b.maxRows⟩ := by
  unfold finish at h
  dsimp only at h
  split at h
  · cases h
  · exact (Except.ok.inj h).symm

/-- In a compiled statement the placeholders are those of its parameters. -/
theorem Descriptor.matched_of_compile {d : Dialect} {mode : ParamMode} {x : Descriptor}
    {s : Statement} (h : x.compile d mode = .ok s) :
    Matched d s.sql s.spans s.params ∧ (mode = .inline → s.params = []) := by
  rw [x.compile_eq d mode] at h
  have sound := (x.emit_scripted d).sound (Buffer.empty_sound d mode)
  have same_mode := ((x.emit_scripted d).grows (.empty mode)).mode
  have whole := Buffer.eq_of_finish (finish_of_compile h)
  subst whole
  refine ⟨sound.marked.matched, fun inline => ?_⟩
  have unbound := sound.inlined (same_mode.trans inline)
  exact congrArg Array.toList unbound

/-- A value becomes a literal, or its prepared form becomes a parameter. -/
theorem Dialect.valuePiece_ok {d : Dialect} {mode : ParamMode} {v : Value} {type : ColumnType}
    {p : Piece} (h : d.valuePiece mode v type = .ok p) :
    (∃ s, d.literal v type = .ok s ∧ p = .text s) ∨
      ∃ w, d.prepare v type = .ok w ∧ p = .parameter ⟨w, type⟩ := by
  have inlined (h : (d.literal v type).map Piece.text = .ok p) :
      ∃ s, d.literal v type = .ok s ∧ p = .text s := by
    obtain ⟨s, literal, rfl⟩ := map_eq_ok_iff.mp h
    exact ⟨s, literal, rfl⟩
  cases mode with
  | inline => exact .inl (inlined h)
  | bind =>
    unfold valuePiece at h
    dsimp only at h
    split at h
    · cases h
    · split at h
      · exact .inl (inlined h)
      · obtain ⟨w, prepared, rfl⟩ := map_eq_ok_iff.mp h
        exact .inr ⟨w, prepared, rfl⟩

/-- A value that is refused leaves the buffer as it was. -/
theorem Buffer.value_refused {d : Dialect} {b b' : Buffer} {v : Value} {type : ColumnType}
    {fault : Fault} (h : Call.run d b (.value v type) = (.error fault, b')) : b' = b := by
  rw [Call.run, Call.emit, run_value] at h
  cases written : d.valuePiece b.mode v type with
  | error _ =>
    rw [written] at h
    exact (congrArg Prod.snd h).symm
  | ok p =>
    rw [written] at h
    cases congrArg Prod.fst h

/-- A value that is taken adds its literal, or a span together with a parameter. -/
theorem Buffer.value_taken {d : Dialect} {b b' : Buffer} {v : Value} {type : ColumnType}
    (h : Call.run d b (.value v type) = (.ok (), b')) :
    (∃ s, d.literal v type = .ok s ∧ b'.sql = b.sql ++ s ∧ b'.spans = b.spans ∧
      b'.params = b.params) ∨
    ∃ w, d.prepare v type = .ok w ∧ b'.sql = b.sql ++ d.placeholder b.params.size ∧
      b'.spans = b.spans ++ [(b.sql.utf8ByteSize, b'.sql.utf8ByteSize)] ∧
      b'.params = b.params.push ⟨w, type⟩ := by
  rw [Call.run, Call.emit, run_value] at h
  cases written : d.valuePiece b.mode v type with
  | error _ =>
    rw [written] at h
    cases congrArg Prod.fst h
  | ok p =>
    rw [written] at h
    obtain rfl : b.add d.placeholder p = b' := congrArg Prod.snd h
    obtain ⟨s, literal, rfl⟩ | ⟨w, prepared, rfl⟩ := Dialect.valuePiece_ok written
    · exact .inl ⟨s, literal, sql_add_text _ b s, spans_add_text _ b s, rfl⟩
    · exact .inr ⟨w, prepared, sql_add_parameter _ b _, spans_add_parameter _ b _, rfl⟩

/-- Whatever is called on an empty buffer, calls that fail half-way among them: its text, spans and
parameters match, and where values are inlined there is no parameter. One more call, whether or not
it fails, only adds to what is there. A value that is refused leaves the buffer as it was; one that
is taken adds its literal, or a span together with a parameter. Compiled statements match too. -/
theorem Buffer.placeholders_match (d : Dialect) (mode : ParamMode) (calls : List Call) :
    let b := (Buffer.empty mode).after d calls
    Matched d b.sql b.spans b.params.toList ∧
    (mode = .inline → b.params = #[]) ∧
    (∀ call : Call, (call.run d b).2.Extends b) ∧
    (∀ v type fault b', Call.run d b (.value v type) = (.error fault, b') → b' = b) ∧
    (∀ v type b', Call.run d b (.value v type) = (.ok (), b') →
      (∃ s, d.literal v type = .ok s ∧ b'.sql = b.sql ++ s ∧ b'.spans = b.spans ∧
        b'.params = b.params) ∨
      ∃ w, d.prepare v type = .ok w ∧ b'.sql = b.sql ++ d.placeholder b.params.size ∧
        b'.spans = b.spans ++ [(b.sql.utf8ByteSize, b'.sql.utf8ByteSize)] ∧
        b'.params = b.params.push ⟨w, type⟩) ∧
    ∀ (x : Descriptor) (s : Statement), x.compile d mode = .ok s →
      Matched d s.sql s.spans s.params ∧ (mode = .inline → s.params = []) := by
  intro b
  have sound : b.Sound d := (empty_sound d mode).after calls
  have same_mode : b.mode = mode := mode_after d (.empty mode) calls
  refine ⟨sound.marked.matched, ?_, ?_, ?_, ?_, ?_⟩
  · intro inline
    exact sound.inlined (same_mode.trans inline)
  · intro call
    exact (call.emit_scripted d).grows b
  · intro v type fault b' refused
    exact value_refused refused
  · intro v type b' taken
    exact value_taken taken
  · intro x s compiled
    exact Descriptor.matched_of_compile compiled

/-- The second of these calls writes a comparison and then fails, as the other one has a column
without a name. -/
def brokenCalls : List Call :=
  [.value (.int 1) .integer,
    .filter (.and [.compare (.column ⟨["Id"]⟩) .eq (.ofInt 2) false,
      .compare (.column ⟨[""]⟩) .eq (.ofInt 3) false]),
    .value (.int 4) .integer]

/-- What the broken filter left behind stays, with its parameter. -/
theorem Buffer.placeholders_match_broken :
    let b := (Buffer.empty .bind).after Builtin.sqlite.dialect brokenCalls
    b.sql = ":P1(\"Id\" = :P2 AND :P3" ∧ b.spans = [(0, 3), (11, 14), (19, 22)] ∧
      Matched Builtin.sqlite.dialect b.sql b.spans b.params.toList := by
  intro b
  have text : b.sql = ":P1(\"Id\" = :P2 AND :P3" := by decide +kernel
  have spans : b.spans = [(0, 3), (11, 14), (19, 22)] := by decide +kernel
  exact ⟨text, spans, (Buffer.placeholders_match Builtin.sqlite.dialect .bind brokenCalls).1⟩

end SqlScribe

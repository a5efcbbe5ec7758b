import Mathlib.Data.List.Zip
import SqlScribe.Proofs.Statement.Rebinding
import SqlScribe.Proofs.Groups

/-!
# Scripts of one shape

Two scripts of one shape differ in nothing but the values they write. Where every value is bound,
their statements differ in their parameters only.
-/

namespace SqlScribe

open Emit

/-- A value and the type it is written as. -/
abbrev Cell := Value × ColumnType

/-- The values of columns as they are written. -/
def cellsOf (columns : List Column) (values : List Value) : List Cell :=
  (columns.zip values).map fun x => (x.2, x.1.type)

theorem cellsOf_eq (columns : List Column) (values : List Value) :
    cellsOf columns values = (values.zip columns).map fun x => (x.1, x.2.type) := by
  rw [cellsOf, ← List.zip_swap, List.map_map]
  rfl

theorem mem_cellsOf {columns : List Column} {values : List Value} {cell : Cell}
    (member : cell ∈ cellsOf columns values) : ∃ c ∈ columns, c.type = cell.2 := by
  obtain ⟨x, found, rfl⟩ := List.mem_map.mp member
  exact ⟨x.1, (List.of_mem_zip found).1, rfl⟩

namespace Dialect

/-- Values of the type are bound where the dialect has its way. -/
def binds (d : Dialect) (type : ColumnType) : Bool :=
  d.features.parameters && (d.features.parameterizedText || !type.isText)

/-- The parameter that a value becomes. -/
def parameter (d : Dialect) (cell : Cell) : Except Fault Param :=
  (d.prepare cell.1 cell.2).map fun w => ⟨w, cell.2⟩

theorem parameter_eq_ok_iff {d : Dialect} {cell : Cell} {q : Param} :
    d.parameter cell = .ok q ↔ d.prepare cell.1 cell.2 = .ok q.value ∧ cell.2 = q.type := by
  rw [parameter, map_eq_ok_iff]
  constructor
  · rintro ⟨w, prepared, rfl⟩
    exact ⟨prepared, rfl⟩
  · rintro ⟨prepared, type⟩
    refine ⟨q.value, prepared, ?_⟩
    rw [type]

theorem valuePiece_of_binds {d : Dialect} {type : ColumnType} (binds : d.binds type = true)
    (v : Value) :
    d.valuePiece d.preferredMode v type = (d.parameter (v, type)).map .parameter := by
  have takes : d.features.parameters = true := by
    simp only [Dialect.binds, Bool.and_eq_true] at binds
    exact binds.1
  have bound : (type.isText && !d.features.parameterizedText) = false := by
    simp only [Dialect.binds, takes, Bool.true_and] at binds
    cases text : type.isText <;> simp_all
  simp only [preferredMode, takes, if_true, valuePiece, bound, parameter]
  cases d.prepare v type <;> rfl

theorem valuePiece_of_not_binds {d : Dialect} {type : ColumnType} (inlines : d.binds type = false)
    (v : Value) :
    d.valuePiece d.preferredMode v type = (d.literal v type).map .text := by
  by_cases takes : d.features.parameters = true
  · have text : (type.isText && !d.features.parameterizedText) = true := by
      simp only [Dialect.binds, takes, Bool.true_and] at inlines
      cases isText : type.isText <;> simp_all
    simp [preferredMode, takes, valuePiece, text]
  · simp [preferredMode, takes, valuePiece]

end Dialect

/-- A value is written as the piece that it becomes. -/
theorem Emit.writes_value {d : Dialect} {v : Value} {type : ColumnType} {b b' : Buffer} :
    Writes (Emit.value d v type) b b' ↔
      ∃ p, d.valuePiece b.mode v type = .ok p ∧ b' = b.add d.placeholder p := by
  unfold Writes
  rw [run_value]
  cases d.valuePiece b.mode v type with
  | error fault =>
    constructor
    · intro written
      cases congrArg Prod.fst written
    · rintro ⟨p, ⟨⟩, -⟩
  | ok p =>
    constructor
    · intro written
      exact ⟨p, rfl, (congrArg Prod.snd written).symm⟩
    · rintro ⟨_, ⟨⟩, rfl⟩
      rfl

namespace Instruction

/-- Two scripts that differ in nothing but their values, and the values of the second one. Behind a
fault it does not matter what they were to write. -/
inductive Refilled : List Instruction → List Instruction → List Cell → Prop
  | nil : Refilled [] [] []
  | text (s : String) {script script' : List Instruction} {cells : List Cell}
      (rest : Refilled script script' cells) :
      Refilled (.text s :: script) (.text s :: script') cells
  | value (v w : Value) (type : ColumnType) {script script' : List Instruction}
      {cells : List Cell} (rest : Refilled script script' cells) :
      Refilled (.value v type :: script) (.value w type :: script') ((w, type) :: cells)
  | refuse (fault : Fault) (script script' : List Instruction) (cells : List Cell) :
      Refilled (.refuse fault :: script) (.refuse fault :: script') cells

namespace Refilled

variable {script script' more more' : List Instruction} {cells others : List Cell} {d : Dialect}

theorem append (h : Refilled script script' cells) (h' : Refilled more more' others) :
    Refilled (script ++ more) (script' ++ more') (cells ++ others) := by
  induction h with
  | nil => exact h'
  | text s _ ih => exact .text s ih
  | value v w type _ ih => exact .value v w type ih
  | refuse fault script script' cells => exact .refuse fault _ _ _

/-- The parameters of a script are made of those of its values that are bound. -/
theorem params_of_pieces (h : Refilled script script' cells) {ps : List Piece}
    (written : d.pieces d.preferredMode script' = (ps, .ok ())) :
    (cells.filter fun cell => d.binds cell.2).mapM d.parameter = .ok (Piece.params ps) := by
  induction h generalizing ps with
  | nil =>
    obtain rfl := congrArg Prod.fst written
    rfl
  | text s rest ih =>
    obtain ⟨_, qs, ⟨⟩, later, rfl⟩ := Dialect.pieces_cons_eq_ok.mp written
    have held := ih later
    exact held
  | value v w type rest ih =>
    obtain ⟨p, qs, here, later, rfl⟩ := Dialect.pieces_cons_eq_ok.mp written
    rw [Dialect.piece] at here
    rw [List.filter_cons]
    by_cases bound : d.binds type = true
    · rw [Dialect.valuePiece_of_binds bound, map_eq_ok_iff] at here
      obtain ⟨q, first, rfl⟩ := here
      rw [if_pos bound, mapM_eq_ok_iff]
      exact .cons first (mapM_eq_ok_iff.mp (ih later))
    · have inlines : d.binds type = false := Bool.eq_false_iff.mpr bound
      rw [Dialect.valuePiece_of_not_binds inlines, map_eq_ok_iff] at here
      obtain ⟨s, -, rfl⟩ := here
      have held := ih later
      rw [if_neg bound]
      exact held
  | refuse fault =>
    obtain ⟨_, _, ⟨⟩, -⟩ := Dialect.pieces_cons_eq_ok.mp written

/-- If all values are bound, the second script comes to its end with whatever parameters its values
become. All else is as in the first one. -/
theorem pieces_of_params (h : Refilled script script' cells)
    (bound : ∀ cell ∈ cells, d.binds cell.2 = true) {ps : List Piece} {params : List Param}
    (written : d.pieces d.preferredMode script = (ps, .ok ()))
    (become : cells.mapM d.parameter = .ok params) :
    ∃ qs, d.pieces d.preferredMode script' = (qs, .ok ()) ∧ Piece.params qs = params ∧
      (∀ mark next, Piece.segments mark next qs = Piece.segments mark next ps) ∧
      ∀ before, Piece.lastCap before qs = Piece.lastCap before ps := by
  induction h generalizing ps params with
  | nil =>
    obtain rfl := congrArg Prod.fst written
    obtain rfl : [] = params := Except.ok.inj become
    exact ⟨[], rfl, rfl, fun _ _ => rfl, fun _ => rfl⟩
  | text s rest ih =>
    obtain ⟨_, ps, ⟨⟩, others, rfl⟩ := Dialect.pieces_cons_eq_ok.mp written
    obtain ⟨qs, later, held, same, cap⟩ := ih bound others become
    refine ⟨.text s :: qs, ?_, held, fun mark next => ?_, cap⟩
    · exact Dialect.pieces_cons_eq_ok.mpr ⟨_, qs, rfl, later, rfl⟩
    · exact congrArg (List.cons _) (same mark next)
  | value v w type rest ih =>
    have here : d.binds type = true := bound _ List.mem_cons_self
    obtain ⟨p, ps, old, others, rfl⟩ := Dialect.pieces_cons_eq_ok.mp written
    rw [Dialect.piece, Dialect.valuePiece_of_binds here, map_eq_ok_iff] at old
    obtain ⟨q₀, -, rfl⟩ := old
    obtain ⟨q, params, first, new, rfl⟩ :=
      List.forall₂_cons_left_iff.mp (mapM_eq_ok_iff.mp become)
    obtain ⟨qs, later, held, same, cap⟩ := ih
      (fun cell member => bound cell (List.mem_cons_of_mem _ member)) others
      (mapM_eq_ok_iff.mpr new)
    have added : d.piece d.preferredMode (.value w type) = .ok (.parameter q) := by
      rw [Dialect.piece, Dialect.valuePiece_of_binds here, first]
      rfl
    refine ⟨.parameter q :: qs, ?_, congrArg _ held, fun mark next => ?_, cap⟩
    · exact Dialect.pieces_cons_eq_ok.mpr ⟨_, qs, added, later, rfl⟩
    · exact congrArg (List.cons _) (same mark (next + 1))
  | refuse fault =>
    obtain ⟨_, _, ⟨⟩, -⟩ := Dialect.pieces_cons_eq_ok.mp written

end Refilled

end Instruction

namespace Emit

/-- Two steps that differ in nothing but the values they write, and the values of the second one. -/
def Refilled (d : Dialect) (step step' : Emit Unit) (cells : List Cell) : Prop :=
  ∃ script script', step = Instruction.emitAll d script ∧ step' = Instruction.emitAll d script' ∧
    Instruction.Refilled script script' cells

namespace Refilled

variable {d : Dialect} {α : Type} {step step' next next' : Emit Unit} {cells others : List Cell}

theorem nothing (d : Dialect) : Refilled d (pure ()) (pure ()) [] :=
  ⟨[], [], rfl, rfl, .nil⟩

theorem text (d : Dialect) (s : String) : Refilled d (Emit.text s) (Emit.text s) [] :=
  ⟨[.text s], [.text s], by simp [Instruction.emitAll, Instruction.emit],
    by simp [Instruction.emitAll, Instruction.emit], .text s .nil⟩

theorem value (d : Dialect) (v w : Value) (type : ColumnType) :
    Refilled d (Emit.value d v type) (Emit.value d w type) [(w, type)] :=
  ⟨[.value v type], [.value w type], by simp [Instruction.emitAll, Instruction.emit],
    by simp [Instruction.emitAll, Instruction.emit], .value v w type .nil⟩

theorem refuse (d : Dialect) (fault : Fault) (cells : List Cell) :
    Refilled d (Emit.attempt (.error fault)) (Emit.attempt (.error fault)) cells :=
  ⟨[.refuse fault], [.refuse fault], by simp [Instruction.emitAll, Instruction.emit],
    by simp [Instruction.emitAll, Instruction.emit], .refuse fault [] [] cells⟩

theorem seq (first : Refilled d step step' cells) (then_next : Refilled d next next' others) :
    Refilled d (do step; next) (do step'; next') (cells ++ others) := by
  obtain ⟨script, script', rfl, rfl, written⟩ := first
  obtain ⟨more, more', rfl, rfl, later⟩ := then_next
  refine ⟨script ++ more, script' ++ more', ?_, ?_, written.append later⟩
  · rw [Instruction.emitAll_append]
  · rw [Instruction.emitAll_append]

/-- A text in front. -/
theorem cons {s : String} (then_next : Refilled d next next' cells) :
    Refilled d (do Emit.text s; next) (do Emit.text s; next') cells :=
  (text d s).seq then_next

/-- A result that both need. -/
theorem attempt {r : Except Fault α} {next next' : α → Emit Unit}
    (h : ∀ a, r = .ok a → Refilled d (next a) (next' a) cells) :
    Refilled d (Emit.attempt r >>= next) (Emit.attempt r >>= next') cells := by
  cases r with
  | ok a => exact h a rfl
  | error fault => exact refuse d fault cells

end Refilled

/-- Steps that differ pair by pair in nothing but their values, and the values of the second ones. -/
inductive RefilledAll (d : Dialect) : List (Emit Unit) → List (Emit Unit) → List Cell → Prop
  | nil : RefilledAll d [] [] []
  | cons {step step' : Emit Unit} {steps steps' : List (Emit Unit)} {cells others : List Cell}
      (first : Refilled d step step' cells) (rest : RefilledAll d steps steps' others) :
      RefilledAll d (step :: steps) (step' :: steps') (cells ++ others)

namespace RefilledAll

variable {d : Dialect} {steps steps' : List (Emit Unit)} {cells : List Cell}

/-- A text between neighbours. -/
theorem separated (sep : String) (h : RefilledAll d steps steps' cells) :
    Refilled d (Emit.separated sep steps) (Emit.separated sep steps') cells := by
  induction h with
  | nil => exact .nothing d
  | @cons step step' steps steps' cells others first rest ih =>
    cases rest with
    | nil =>
      rw [List.append_nil]
      exact first
    | cons second rest => exact first.seq (.cons ih)

theorem junction (sep : String) (empty : Bool) (h : RefilledAll d steps steps' cells) :
    Refilled d (Emit.junction d sep empty steps) (Emit.junction d sep empty steps') cells := by
  have all := h.separated sep
  cases h with
  | nil => exact .text d (d.truth empty)
  | cons first rest =>
    cases rest with
    | nil => exact all
    | cons second rest =>
      have closed := all.seq (.text d ")")
      rw [List.append_nil] at closed
      exact .cons closed

end RefilledAll

/-- The parameters of a compiled step are made of those of its values that are bound. -/
theorem Refilled.params_of_compile {d : Dialect} {step step' : Emit Unit} {cells : List Cell}
    (h : Refilled d step step' cells) {s : Statement}
    (compiled : Emit.compile d d.preferredMode step' = .ok s) :
    (cells.filter fun cell => d.binds cell.2).mapM d.parameter = .ok s.params := by
  obtain ⟨script, script', rfl, rfl, same⟩ := h
  obtain ⟨ps, ended, finished⟩ := Emit.compile_emitAll_eq_ok.mp compiled
  rw [Buffer.statement_of_finish finished]
  exact same.params_of_pieces ended

/-- A step with all its values bound is compiled to the statement of another one of its shape, with
parameters of its own, and it is compiled if its values become parameters. -/
theorem Refilled.compile {d : Dialect} {step step' : Emit Unit} {cells : List Cell}
    (h : Refilled d step step' cells) (bound : ∀ cell ∈ cells, d.binds cell.2 = true)
    {t : Statement} (written : Emit.compile d d.preferredMode step = .ok t) (s : Statement) :
    Emit.compile d d.preferredMode step' = .ok s ↔
      ∃ params, cells.mapM d.parameter = .ok params ∧ s = { t with params := params } := by
  obtain ⟨script, script', rfl, rfl, same⟩ := h
  obtain ⟨ps, ended, written⟩ := Emit.compile_emitAll_eq_ok.mp written
  rw [Emit.compile_emitAll_eq_ok]
  constructor
  · rintro ⟨qs, ended', compiled⟩
    have become := same.params_of_pieces ended'
    rw [List.filter_eq_self.mpr bound] at become
    obtain ⟨qs', again, -, segments, cap⟩ := same.pieces_of_params bound ended become
    obtain rfl : qs = qs' := congrArg Prod.fst (ended'.symm.trans again)
    refine ⟨_, become, ?_⟩
    rw [Buffer.statement_of_finish compiled, Buffer.statement_of_finish written]
    simp only [Piece.statement, segments, cap]
  · rintro ⟨params, become, rfl⟩
    obtain ⟨qs, ended', held, segments, cap⟩ := same.pieces_of_params bound ended become
    have texts : ((Buffer.empty d.preferredMode).addAll d.placeholder qs).segments =
        ((Buffer.empty d.preferredMode).addAll d.placeholder ps).segments := by
      rw [Buffer.addAll_eq, Buffer.addAll_eq, segments]
    have short : ¬ (0 < d.features.maxStatementLength ∧ d.features.maxStatementLength <
        ((Buffer.empty d.preferredMode).addAll d.placeholder ps).length) := by
      intro long
      rw [Buffer.finish, if_pos long] at written
      cases written
    have finished : ∃ u, ((Buffer.empty d.preferredMode).addAll d.placeholder qs).finish d =
        .ok u := by
      rw [Buffer.finish, Buffer.length, texts]
      exact ⟨_, if_neg short⟩
    obtain ⟨u, finished⟩ := finished
    refine ⟨qs, ended', ?_⟩
    rw [finished, Buffer.statement_of_finish finished, Buffer.statement_of_finish written]
    simp only [Piece.statement, segments, cap, held]

end Emit

end SqlScribe

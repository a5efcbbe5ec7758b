import SqlScribe.Dialect

/-!
# Statements under construction

A statement is text in which some places stand for values that are sent beside it. It is built in a
buffer that only grows: a step that fails keeps what was written before it failed.
-/

namespace SqlScribe

open SqlScribe.Text

/-- Values go beside the text, or into it as literals. -/
inductive ParamMode
  | bind
  | inline
deriving DecidableEq

/-- A value that is sent beside the text. -/
structure Param where
  value : Value
  type : ColumnType
deriving DecidableEq

/-- A stretch of a statement: text, or the mark that stands for the next parameter. -/
inductive Segment
  | text (s : String)
  | marker (s : String)
deriving DecidableEq

namespace Segment

def content : Segment → String
  | text s | marker s => s

end Segment

/-- The segments of a statement one after the other. -/
def sqlOf (segments : List Segment) : String := String.join (segments.map Segment.content)

/-- A finished statement; a row cap is there for the reader of the result to apply. -/
structure Statement where
  segments : List Segment
  params : List Param
  maxRows : Option Nat
deriving DecidableEq

namespace Statement

def sql (s : Statement) : String := sqlOf s.segments

/-- The text with the `i`-th marker, counted from `next`, replaced by `mark i`. -/
def remark (mark : Nat → String) (next : Nat) : List Segment → String
  | [] => ""
  | .text s :: rest => s ++ remark mark next rest
  | .marker _ :: rest => mark next ++ remark mark (next + 1) rest

/-- The text with other markers. -/
def rebind (s : Statement) (mark : Nat → String) : String := remark mark 0 s.segments

/-- The number of markers. -/
def markerCount (s : Statement) : Nat :=
  s.segments.countP fun
    | .marker _ => true
    | .text _ => false

end Statement

/-- A statement under construction. -/
structure Buffer where
  mode : ParamMode
  segments : Array Segment
  params : Array Param
  maxRows : Option Nat

namespace Buffer

def empty (mode : ParamMode) : Buffer := ⟨mode, #[], #[], none⟩

def sql (b : Buffer) : String := sqlOf b.segments.toList

/-- The length of the text in bytes. -/
def length (b : Buffer) : Nat :=
  b.segments.foldl (fun n segment => n + segment.content.utf8ByteSize) 0

/-- The finished statement, unless it is longer than the dialect allows. -/
def finish (b : Buffer) (d : Dialect) : Except Fault Statement :=
  let limit := d.features.maxStatementLength
  if 0 < limit ∧ limit < b.length then .error (.statementTooLong b.length limit)
  else .ok ⟨b.segments.toList, b.params.toList, b.maxRows⟩

end Buffer

/-- A step that writes to a buffer and may fail half-way. -/
abbrev Emit (α : Type) := ExceptT Fault (StateM Buffer) α

namespace Emit

/-- Writes text. -/
def text (s : String) : Emit Unit :=
  modify fun b => { b with segments := b.segments.push (.text s) }

/-- Caps the rows that the reader of the result takes. -/
def cap (rows : Nat) : Emit Unit := modify fun b => { b with maxRows := some rows }

/-- A result that may have failed before anything was written. -/
def attempt {α : Type} (x : Except Fault α) : Emit α := ExceptT.mk (pure x)

/-- Binds a value to the next marker. -/
def bound (marker : Nat → String) (p : Param) : Emit Unit :=
  modify fun b =>
    { b with
      segments := b.segments.push (.marker (marker b.params.size))
      params := b.params.push p }

/-- Writes a value: as a literal if the mode or the dialect's way with text asks for it, and
otherwise as a marker with a parameter. -/
def value (d : Dialect) (v : Value) (type : ColumnType) : Emit Unit := do
  match (← get).mode with
  | .inline => text (← attempt (d.literal v type))
  | .bind =>
    if !d.features.parameters then attempt (d.lacks .parameters)
    else if type.isText && !d.features.parameterizedText then
      text (← attempt (d.literal v type))
    else bound d.placeholder ⟨← attempt (d.prepare v type), type⟩

/-- The statement that a step writes into an empty buffer. -/
def compile (d : Dialect) (mode : ParamMode) (step : Emit Unit) : Except Fault Statement :=
  match step.run.run (.empty mode) with
  | (.ok (), b) => b.finish d
  | (.error fault, _) => .error fault

/-- A list of steps with a text between neighbours. -/
def separated (sep : String) : List (Emit Unit) → Emit Unit
  | [] => pure ()
  | [step] => step
  | step :: rest => do
    step
    text sep
    separated sep rest

end Emit

/-- The mode that a dialect prefers: binding, if it has parameters. -/
def Dialect.preferredMode (d : Dialect) : ParamMode :=
  if d.features.parameters then .bind else .inline

end SqlScribe

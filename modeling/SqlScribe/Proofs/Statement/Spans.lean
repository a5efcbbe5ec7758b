import SqlScribe.Statement

/-!
# Spans

Where the markers of a statement stand in its text, counted in bytes. Cutting the text at its spans
and putting other marks there writes what the segments write with these marks.
-/

namespace SqlScribe

/-- A stretch of bytes: where it begins and where it ends. -/
abbrev Span := Nat × Nat

/-- The bytes of a stretch of a text. -/
def Span.read (span : Span) (s : String) : ByteArray := s.toByteArray.extract span.1 span.2

namespace Segment

/-- The markers, in order. -/
def markers : List Segment → List String
  | [] => []
  | .text _ :: rest => markers rest
  | .marker s :: rest => s :: markers rest

/-- Where the markers stand, if the first segment begins at `offset`. -/
def spansFrom (offset : Nat) : List Segment → List Span
  | [] => []
  | .text s :: rest => spansFrom (offset + s.utf8ByteSize) rest
  | .marker s :: rest =>
    (offset, offset + s.utf8ByteSize) :: spansFrom (offset + s.utf8ByteSize) rest

end Segment

/-- The text with the `i`-th span, counted from `next`, replaced by `mark i`. What lies between the
spans is copied from `last` on. -/
def splice (s : String) (mark : Nat → String) (next last : Nat) : List Span → ByteArray
  | [] => s.toByteArray.extract last s.utf8ByteSize
  | span :: rest =>
    Span.read (last, span.1) s ++ (mark next).toByteArray ++ splice s mark (next + 1) span.2 rest

namespace Span

/-- What stands behind a text is not read. -/
theorem read_left (last : Nat) (s after : String) :
    Span.read (last, s.utf8ByteSize) (s ++ after) = Span.read (last, s.utf8ByteSize) s := by
  rw [read, read, String.toByteArray_append, ← String.size_toByteArray]
  exact ByteArray.extract_append_size_left

/-- What stands before a text is not read. -/
theorem read_right (before s : String) :
    Span.read (before.utf8ByteSize, before.utf8ByteSize + s.utf8ByteSize) (before ++ s) =
      s.toByteArray := by
  rw [read, String.toByteArray_append]
  apply ByteArray.extract_append_eq_right
  · exact String.size_toByteArray.symm
  · rw [String.size_toByteArray, String.size_toByteArray]

theorem read_append {s after : String} {last : Nat} (within : last ≤ s.utf8ByteSize) :
    Span.read (last, (s ++ after).utf8ByteSize) (s ++ after) =
      Span.read (last, s.utf8ByteSize) s ++ after.toByteArray := by
  have split : Span.read (last, (s ++ after).utf8ByteSize) (s ++ after) =
      Span.read (last, s.utf8ByteSize) (s ++ after) ++
        Span.read (s.utf8ByteSize, (s ++ after).utf8ByteSize) (s ++ after) := by
    apply ByteArray.extract_eq_extract_append_extract s.utf8ByteSize within
    rw [String.utf8ByteSize_append]
    exact Nat.le_add_right _ _
  rw [split, read_left, String.utf8ByteSize_append, read_right]

end Span

def Statement.spans (s : Statement) : List Span := Segment.spansFrom 0 s.segments

def Buffer.spans (b : Buffer) : List Span := Segment.spansFrom 0 b.segments.toList

theorem sqlOf_nil : sqlOf [] = "" := rfl

theorem sqlOf_cons (segment : Segment) (rest : List Segment) :
    sqlOf (segment :: rest) = segment.content ++ sqlOf rest := String.join_cons

theorem sqlOf_append (segments more : List Segment) :
    sqlOf (segments ++ more) = sqlOf segments ++ sqlOf more := by
  rw [sqlOf, List.map_append, String.join_append]
  rfl

namespace Segment

theorem markers_append (segments more : List Segment) :
    markers (segments ++ more) = markers segments ++ markers more := by
  induction segments with
  | nil => rfl
  | cons segment rest ih => cases segment <;> simp [markers, ih]

theorem length_spansFrom (offset : Nat) (segments : List Segment) :
    (spansFrom offset segments).length = (markers segments).length := by
  induction segments generalizing offset with
  | nil => rfl
  | cons segment rest ih => cases segment <;> simp [spansFrom, markers, ih]

theorem spansFrom_append (offset : Nat) (segments more : List Segment) :
    spansFrom offset (segments ++ more) =
      spansFrom offset segments ++ spansFrom (offset + (sqlOf segments).utf8ByteSize) more := by
  induction segments generalizing offset with
  | nil => simp [spansFrom, sqlOf_nil]
  | cons segment rest ih =>
    cases segment <;>
      simp [spansFrom, ih, sqlOf_cons, content, String.utf8ByteSize_append, Nat.add_assoc]

theorem spansFrom_within {offset : Nat} {segments : List Segment} {span : Span}
    (member : span ∈ spansFrom offset segments) :
    offset ≤ span.1 ∧ span.1 ≤ span.2 ∧ span.2 ≤ offset + (sqlOf segments).utf8ByteSize := by
  induction segments generalizing offset with
  | nil => cases member
  | cons segment rest ih =>
    rw [sqlOf_cons, String.utf8ByteSize_append]
    cases segment with
    | text s =>
      have later := ih member
      dsimp only [content]
      omega
    | marker s =>
      dsimp only [content]
      cases member with
      | head => omega
      | tail _ member =>
        have later := ih member
        omega

theorem spansFrom_pairwise (offset : Nat) (segments : List Segment) :
    (spansFrom offset segments).Pairwise fun a b => a.2 ≤ b.1 := by
  induction segments generalizing offset with
  | nil => exact .nil
  | cons segment rest ih =>
    cases segment with
    | text s => exact ih _
    | marker s => exact .cons (fun span member => (spansFrom_within member).1) (ih _)

/-- What stands in the `i`-th span is the `i`-th marker. -/
theorem read_spansFrom (before : String) {segments : List Segment} {i : Nat} {span : Span}
    (found : (spansFrom before.utf8ByteSize segments)[i]? = some span) :
    ∃ s, (markers segments)[i]? = some s ∧ span.read (before ++ sqlOf segments) = s.toByteArray := by
  induction segments generalizing before i with
  | nil => cases found
  | cons segment rest ih =>
    rw [sqlOf_cons, ← String.append_assoc]
    cases segment with
    | text s =>
      apply ih
      rwa [content, String.utf8ByteSize_append]
    | marker s =>
      cases i with
      | zero =>
        cases found
        refine ⟨s, rfl, ?_⟩
        rw [content, ← String.utf8ByteSize_append, Span.read_left, String.utf8ByteSize_append]
        exact Span.read_right before s
      | succ i =>
        apply ih
        rwa [content, String.utf8ByteSize_append]

/-- Cutting at the spans writes what the segments write with the other marks. -/
theorem splice_spansFrom (before : String) (mark : Nat → String) (next : Nat) {last : Nat}
    (segments : List Segment) (within : last ≤ before.utf8ByteSize) :
    splice (before ++ sqlOf segments) mark next last (spansFrom before.utf8ByteSize segments) =
      Span.read (last, before.utf8ByteSize) before ++
        (Statement.remark mark next segments).toByteArray := by
  -- `before` has been passed over, and from `last` on nothing of it has been copied yet.
  induction segments generalizing before next last with
  | nil => simp [spansFrom, splice, Statement.remark, sqlOf_nil, Span.read]
  | cons segment rest ih =>
    rw [sqlOf_cons, ← String.append_assoc]
    cases segment with
    | text s =>
      have inside : last ≤ (before ++ s).utf8ByteSize := by
        rw [String.utf8ByteSize_append]
        omega
      rw [spansFrom, ← String.utf8ByteSize_append, content, ih (before ++ s) next inside,
        Span.read_append within, Statement.remark, String.toByteArray_append,
        ByteArray.append_assoc]
    | marker s =>
      rw [spansFrom, ← String.utf8ByteSize_append, splice, content,
        ih (before ++ s) (next + 1) (Nat.le_refl _), String.append_assoc, Span.read_left,
        Statement.remark, String.toByteArray_append, ByteArray.append_assoc]
      simp [Span.read]

end Segment

/-- Other markers are put in by cutting the text at its spans. -/
theorem Statement.splice_spans (s : Statement) (mark : Nat → String) :
    splice s.sql mark 0 0 s.spans = (s.rebind mark).toByteArray := by
  have cut := Segment.splice_spansFrom "" mark 0 s.segments (Nat.le_refl 0)
  simpa [Span.read, sql, spans, rebind] using cut

end SqlScribe

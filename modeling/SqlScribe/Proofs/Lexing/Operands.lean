import SqlScribe.Proofs.Lexing.Fragments
import SqlScribe.Proofs.Value.Identifiers

/-!
# Operands and glue

Texts and names stand between glue, which is made of code. Operands that correspond, put together
with the same glue, make operands that correspond; those without quotes correspond to themselves.
-/

namespace SqlScribe

open Text Lexing

namespace Lexing

variable {marks : Option NameMarks} {e e' middle : Edge} {s t u v : String}

/-- The texts may stand for each other between some edges. -/
def Alike (marks : Option NameMarks) (e e' : Edge) (s t : String) : Prop :=
  Carries marks e e' s.toList t.toList

/-- An operand stands behind anything but a text, and may be a text itself. -/
abbrev Operand (marks : Option NameMarks) (s t : String) : Prop := Alike marks .clear .any s t

/-- Nothing in the text opens or closes anything. -/
def isCodeText (s : String) : Bool := s.toList.all isCode

theorem isCode_of_isCodeText (h : isCodeText s = true) : ∀ c ∈ s.toList, isCode c = true :=
  fun c member => List.all_eq_true.mp h c member

/-- What keeps operands apart: some code. -/
def isGlue (s : String) : Bool := s != "" && isCodeText s

theorem isGlue_append (h : isGlue s = true) (code : ∀ c ∈ t.toList, isCode c = true) :
    isGlue (s ++ t) = true := by
  simp only [isGlue, Bool.and_eq_true, bne_iff_ne, isCodeText, String.toList_append,
    List.all_append] at h ⊢
  obtain ⟨something, first⟩ := h
  refine ⟨fun nothing => something (String.append_eq_empty_iff.mp nothing).1, first, ?_⟩
  exact List.all_eq_true.mpr code

theorem Alike.append (first : Alike marks e middle s t) (then_next : Alike marks middle e' u v) :
    Alike marks e e' (s ++ u) (t ++ v) := by
  unfold Alike
  rw [String.toList_append, String.toList_append]
  exact Carries.append first then_next

theorem Alike.glue (proper : Proper marks) (s : String) (h : isGlue s = true) :
    Alike marks e e' s s := by
  simp only [isGlue, Bool.and_eq_true, bne_iff_ne] at h
  obtain ⟨something, code⟩ := h
  exact Carries.code proper (fun nothing => something (String.toList_eq_nil_iff.mp nothing))
    (isCode_of_isCodeText code)

namespace Operand

/-- Nothing but code, or nothing at all. -/
theorem code (proper : Proper marks) (code : ∀ c ∈ s.toList, isCode c = true) :
    Operand marks s s := by
  by_cases nothing : s = ""
  · subst nothing
    exact (Carries.nothing .clear).to_any
  · apply Alike.glue proper s
    simp only [isGlue, Bool.and_eq_true, bne_iff_ne]
    exact ⟨nothing, List.all_eq_true.mpr code⟩

/-- A fixed piece of code. -/
theorem word (proper : Proper marks) (s : String) (all : isCodeText s = true) :
    Operand marks s s := code proper (isCode_of_isCodeText all)

/-- An operand with glue in front and behind. -/
theorem between (proper : Proper marks) (before after : String) (opening : isGlue before = true)
    (closing : isGlue after = true) (h : Operand marks s t) :
    Operand marks (before ++ s ++ after) (before ++ t ++ after) :=
  ((Alike.glue proper before opening).append h).append (Alike.glue proper after closing)

/-- Two operands with glue in front, between and behind. -/
theorem pair (proper : Proper marks) (before sep after : String) (opening : isGlue before = true)
    (middle : isGlue sep = true) (closing : isGlue after = true) (h : Operand marks s t)
    (h' : Operand marks u v) :
    Operand marks (before ++ s ++ sep ++ u ++ after) (before ++ t ++ sep ++ v ++ after) :=
  ((((Alike.glue proper before opening).append h).append (Alike.glue proper sep middle)).append
    h').append (Alike.glue proper after closing)

/-- Operands with glue between neighbours. -/
theorem join (proper : Proper marks) (sep : String) (glue : isGlue sep = true)
    {ss ts : List String} (h : List.Forall₂ (Operand marks) ss ts) :
    Operand marks (Text.join sep ss) (Text.join sep ts) := by
  induction h with
  | nil => exact code proper (fun c member => nomatch member)
  | cons first others ih =>
    cases others with
    | nil =>
      unfold Text.join
      rw [String.intercalate_singleton, String.intercalate_singleton]
      exact first
    | cons _ _ =>
      unfold Text.join at ih ⊢
      rw [String.intercalate_cons_cons, String.intercalate_cons_cons]
      exact (first.append (Alike.glue proper sep glue)).append ih

/-- Texts between quotes, each quote in them doubled. -/
theorem quotedText (proper : Proper marks) (s t : String) :
    Operand marks (Dialect.quotedText s) (Dialect.quotedText t) := by
  unfold Operand Alike
  rw [Literal.toList_quotedText, Literal.toList_quotedText]
  exact Carries.quoted proper s.toList t.toList

/-- Characters between quotes, with no quote among them. -/
theorem quoted (proper : Proper marks) (plain : ∀ c ∈ s.toList, c ≠ '\x27') :
    Operand marks ("'" ++ s ++ "'") ("'" ++ s ++ "'") := by
  have same : "'" ++ s ++ "'" = Dialect.quotedText s := by
    rw [Dialect.quotedText, doubled]
    have single := Literal.quoteDoubled_of_plain plain
    unfold Literal.quoteDoubled at single
    rw [single, String.ofList_toList]
  rw [same]
  exact quotedText proper s s

/-- A quoted name. -/
theorem name {m : NameMarks} (own : marks = some m) (proper : Proper marks) {cs : List Char}
    (spelled : s.toList = m.quote cs) : Operand marks s s := by
  unfold Operand Alike
  rw [spelled]
  exact Carries.name own (proper m own) cs

end Operand

/-! ## The characters of literals -/

theorem isCode_of_ne {c : Char} (quote : c ≠ '\x27') (double : c ≠ '"') (opening : c ≠ '[')
    (closing : c ≠ ']') : isCode c = true := by
  simp [isCode, quote, double, opening, closing]

theorem isCode_of_isHexDigit {c : Char} (h : isHexDigit c = true) : isCode c = true := by
  have other (d : Char) (no_digit : isHexDigit d = false) : c ≠ d := by
    rintro rfl
    rw [no_digit] at h
    cases h
  exact isCode_of_ne (other _ rfl) (other _ rfl) (other _ rfl) (other _ rfl)

theorem isCode_of_isDigit {c : Char} (h : c.isDigit = true) : isCode c = true := by
  apply isCode_of_isHexDigit
  rw [isHexDigit, h]
  rfl

theorem ne_quote {cs : List Char} (code : ∀ c ∈ cs, isCode c = true) : ∀ c ∈ cs, c ≠ '\x27' :=
  fun c member => Reading.ne_quote_of_isCode (code c member)

theorem isCode_ofList {cs : List Char} (code : ∀ c ∈ cs, isCode c = true) :
    ∀ c ∈ (String.ofList cs).toList, isCode c = true := by
  rw [String.toList_ofList]
  exact code

theorem isCode_paddedDigits (width n : Nat) : ∀ c ∈ paddedDigits width n, isCode c = true :=
  fun _ member => isCode_of_isDigit (Decimal.isDigit_of_mem_paddedDigits member)

theorem isCode_digits (n : Nat) : ∀ c ∈ digits n, isCode c = true :=
  fun _ member => isCode_of_isDigit (isDigit_of_mem_digits member)

theorem isCode_numeral (n : Int) : ∀ c ∈ (numeral n).toList, isCode c = true := by
  apply isCode_ofList
  unfold signedDigits
  by_cases negative : n < 0
  · rw [if_pos negative, List.forall_mem_cons]
    exact ⟨by decide, isCode_digits _⟩
  · rw [if_neg negative]
    exact isCode_digits _

theorem isCode_amount (m : Decimal) : ∀ c ∈ m.toText.toList, isCode c = true := by
  have whole : ∀ c ∈ m.wholeDigits, isCode c = true :=
    fun _ member => isCode_of_isDigit (Decimal.isDigit_of_mem_wholeDigits member)
  have places : ∀ c ∈ m.placeDigits, isCode c = true :=
    fun _ member => isCode_of_isDigit (Decimal.isDigit_of_mem_placeDigits member)
  rw [Decimal.toText, String.toList_ofList, Decimal.toChars_eq, List.forall_mem_append,
    List.forall_mem_append]
  refine ⟨?_, whole, ?_⟩
  · cases m.negative <;> simp [isCode]
  · by_cases integral : m.scale = 0
    · simp [integral]
    · rw [if_neg integral, List.forall_mem_cons]
      exact ⟨by decide, places⟩

theorem isCode_positional {ds : List Char} (code : ∀ c ∈ ds, isCode c = true) (point : Int) :
    ∀ c ∈ Binary64.positional ds point, isCode c = true := by
  have zeros (n : Nat) : ∀ c ∈ List.replicate n '0', isCode c = true := by
    intro c member
    rw [List.eq_of_mem_replicate member]
    rfl
  have mark : isCode '.' = true := rfl
  have zero : isCode '0' = true := rfl
  unfold Binary64.positional
  by_cases small : point ≤ 0
  · rw [if_pos small]
    simp only [List.forall_mem_cons, List.forall_mem_append]
    exact ⟨zero, mark, zeros _, code⟩
  · rw [if_neg small]
    by_cases whole : ds.length ≤ point.toNat
    · rw [if_pos whole, List.forall_mem_append]
      exact ⟨code, zeros _⟩
    · rw [if_neg whole]
      simp only [List.forall_mem_cons, List.forall_mem_append]
      exact ⟨fun c member => code c (List.mem_of_mem_take member), mark,
        fun c member => code c (List.mem_of_mem_drop member)⟩

theorem isCode_float {x : Binary64} (finite : x.isFinite = true) :
    ∀ c ∈ x.toText.toList, isCode c = true := by
  have body : ∀ c ∈ x.unsignedText, isCode c = true := by
    unfold Binary64.unsignedText
    by_cases zero : x.magnitudeBits = 0
    · rw [if_pos zero]
      exact List.all_eq_true.mp rfl
    · rw [if_neg zero]
      exact isCode_positional (isCode_digits _) _
  unfold Binary64.toText
  by_cases undefined : x.isNaN = true
  · rw [if_pos undefined]
    exact isCode_of_isCodeText rfl
  · rw [if_neg undefined, if_pos finite, String.toList_ofList]
    by_cases negative : x.isNegative = true
    · rw [if_pos negative, List.forall_mem_cons]
      exact ⟨by decide, body⟩
    · rw [if_neg negative]
      exact body

theorem isCode_upperHex (bytes : List UInt8) : ∀ c ∈ upperHex bytes, isCode c = true :=
  fun _ member => isCode_of_isHexDigit (isHexDigit_of_mem_upperHex member)

theorem isCode_lowerHex (bytes : List UInt8) : ∀ c ∈ lowerHex bytes, isCode c = true :=
  fun _ member => isCode_of_isHexDigit (isHexDigit_of_mem_lowerHex member)

theorem ne_quote_guid (g : Guid) : ∀ c ∈ g.toText.toList, c ≠ '\x27' := by
  intro c member
  rw [Guid.toText, String.toList_ofList] at member
  exact (Guid.isPlain_of_mem_toChars member).ne_of_toNat (by decide)

/-- A mark writes code, unless it stands for another character. -/
def isCodeMark : Mark → Bool
  | .text c => isCode c
  | _ => true

theorem isCode_mark {mark : Mark} (code : isCodeMark mark = true) (m : DateTime) :
    ∀ c ∈ mark.write m, isCode c = true := by
  have point (width n : Nat) : ∀ c ∈ '.' :: paddedDigits width n, isCode c = true := by
    rw [List.forall_mem_cons]
    exact ⟨by decide, isCode_paddedDigits width n⟩
  cases mark with
  | year =>
    change ∀ c ∈ Mark.writeYear m.date.year, isCode c = true
    unfold Mark.writeYear
    split
    · exact isCode_paddedDigits _ _
    · rw [List.forall_mem_cons]
      refine ⟨?_, isCode_paddedDigits _ _⟩
      split <;> decide
  | fraction =>
    change ∀ c ∈ Mark.writeFraction m.time.fraction, isCode c = true
    unfold Mark.writeFraction
    split
    · exact fun _ member => nomatch member
    · split
      · exact point _ _
      · split
        · exact point _ _
        · exact point _ _
  | microseconds => exact point _ _
  | gap =>
    change ∀ c ∈ [' '], isCode c = true
    exact List.all_eq_true.mp rfl
  | text c =>
    intro d member
    obtain rfl := List.mem_singleton.mp member
    exact code
  | _ => exact isCode_paddedDigits _ _

theorem isCode_write {pattern : Pattern} (code : pattern.all isCodeMark = true)
    (m : DateTime) : ∀ c ∈ (String.ofList (pattern.write m)).toList, isCode c = true := by
  apply isCode_ofList
  intro c member
  obtain ⟨mark, found, written⟩ := List.mem_flatMap.mp member
  exact isCode_mark (List.all_eq_true.mp code mark found) m c written

end Lexing

end SqlScribe

import Mathlib.Data.List.Forall2
import SqlScribe.Proofs.Lexing.Stretches

/-!
# Fragments of statements

A statement is put together from fragments, and two statements of one shape from fragments that
correspond. Corresponding fragments are cut alike wherever they stand: at the end of each the cutter
is outside of texts and names, and all that differs is what stands in a text.
-/

namespace SqlScribe.Lexing

open SqlScribe.Text

/-- Where a fragment may begin, or has ended: anywhere outside of texts and names, or not right
behind a text, which a following quote would continue. -/
inductive Edge
  | clear
  | any

variable (marks : Option NameMarks)

/-- Two stretches that are equal, or two texts. -/
inductive Stretch.Agree : Stretch → Stretch → Prop
  | string (content content' : List Char) : Agree (.string content) (.string content')
  | name (m : NameMarks) (written : List Char) : Agree (.name m written) (.name m written)
  | code (cs : List Char) : Agree (.code cs) (.code cs)

/-- The same has been read, apart from what stands in a text that has just ended. -/
inductive Reading.Agree : Edge → Reading → Reading → Prop
  | code (e : Edge) (seen : List Char) : Agree e (.code seen) (.code seen)
  | nameEnd (e : Edge) {m : NameMarks} (own : marks = some m) (written : List Char) :
    Agree e (.nameEnd m written) (.nameEnd m written)
  | stringEnd (content content' : List Char) :
    Agree .any (.stringEnd content) (.stringEnd content')

/-- The fragments are cut alike wherever they may begin. -/
def Carries (e e' : Edge) (cs ds : List Char) : Prop :=
  ∀ r r', Reading.Agree marks e r r' →
    List.Forall₂ Stretch.Agree (Reading.run marks r cs).1 (Reading.run marks r' ds).1 ∧
      Reading.Agree marks e' (Reading.run marks r cs).2 (Reading.run marks r' ds).2

/-- A character that opens or closes nothing. -/
def isCode (c : Char) : Bool := c != '\x27' && c != '"' && c != '[' && c != ']'

variable {marks}

theorem Reading.Agree.anywhere {e : Edge} {r r' : Reading} (h : Agree marks .clear r r') :
    Agree marks e r r' := by
  cases h with
  | code _ seen => exact .code e seen
  | nameEnd _ own written => exact .nameEnd e own written

theorem Reading.Agree.wider {e : Edge} {r r' : Reading} (h : Agree marks e r r') :
    Agree marks .any r r' := by
  cases e with
  | clear => exact h.anywhere
  | any => exact h

namespace Carries

variable {e e' middle : Edge} {cs ds more others : List Char}

theorem nothing (e : Edge) : Carries marks e e [] [] := fun _ _ agree => ⟨.nil, agree⟩

theorem append (first : Carries marks e middle cs ds)
    (then_next : Carries marks middle e' more others) :
    Carries marks e e' (cs ++ more) (ds ++ others) := by
  intro r r' agree
  obtain ⟨ended, outside⟩ := first r r' agree
  obtain ⟨later, last⟩ := then_next _ _ outside
  rw [Reading.run_append, Reading.run_append]
  exact ⟨List.rel_append ended later, last⟩

/-- A fragment that may begin anywhere may begin at a given edge. -/
theorem from_any (h : Carries marks .any e' cs ds) : Carries marks e e' cs ds :=
  fun r r' agree => h r r' agree.wider

/-- A fragment that does not end in a text may stand where one might. -/
theorem to_any (h : Carries marks e .clear cs ds) : Carries marks e e' cs ds :=
  fun r r' agree => ⟨(h r r' agree).1, (h r r' agree).2.anywhere⟩

end Carries

/-- A character inside of a name. -/
def NameMarks.escape (m : NameMarks) (c : Char) : List Char :=
  if m.escapes then if c = '\\' ∨ c = m.closing then ['\\', c] else [c]
  else if c = m.closing then [m.closing, m.closing] else [c]

/-- A name between its marks. -/
def NameMarks.quote (m : NameMarks) (cs : List Char) : List Char :=
  m.opening :: (cs.flatMap m.escape ++ [m.closing])

/-- The marks are neither code nor those of texts, and no backslashes. -/
structure NameMarks.Proper (m : NameMarks) : Prop where
  opening_closed : isCode m.opening = false
  closing_closed : isCode m.closing = false
  opening_ne : m.opening ≠ '\x27'
  closing_ne : m.closing ≠ '\x27'
  closing_ne_escape : m.closing ≠ '\\'

/-- The marks of names, if there are any, are proper. -/
def Proper (marks : Option NameMarks) : Prop := ∀ m, marks = some m → m.Proper

namespace Reading

variable {c : Char} {cs : List Char}

theorem ne_quote_of_isCode (code : isCode c = true) : c ≠ '\x27' := by
  rintro rfl
  cases code

theorem opens_of_isCode (proper : Proper marks) (code : isCode c = true) :
    opens marks c = false := by
  have quote : (c == '\x27') = false := beq_eq_false_iff_ne.mpr (ne_quote_of_isCode code)
  cases marks with
  | none => simp [opens, quote]
  | some m =>
    have differs : m.opening ≠ c := by
      rintro rfl
      have closed := (proper m rfl).opening_closed
      rw [code] at closed
      cases closed
    simp [opens, quote, differs]

theorem fresh_of_isCode (proper : Proper marks) (code : isCode c = true) :
    fresh marks c = .code [c] := by
  have closed := opens_of_isCode proper code
  unfold fresh
  rw [if_neg (ne_quote_of_isCode code)]
  cases marks with
  | none => rfl
  | some m =>
    have differs : m.opening ≠ c := by
      intro same
      simp [opens, same] at closed
    simp only [if_neg differs]

/-- Code goes on as code. -/
theorem run_code (proper : Proper marks) (code : ∀ c ∈ cs, isCode c = true) (seen : List Char) :
    run marks (.code seen) cs = ([], .code (seen ++ cs)) := by
  induction cs generalizing seen with
  | nil => simp [run]
  | cons c rest ih =>
    have closed := opens_of_isCode proper (code c List.mem_cons_self)
    have step : (Reading.code seen).step marks c = ([], .code (seen ++ [c])) := by
      simp [Reading.step, closed]
    have others := ih (fun d member => code d (List.mem_cons_of_mem c member)) (seen ++ [c])
    rw [run_cons, step, others, List.append_assoc]
    rfl

/-- Inside of a text every doubled quote is a quote. -/
theorem run_string (content cs : List Char) :
    run marks (.string content) (Literal.quoteDoubled cs) = ([], .string (content ++ cs)) := by
  induction cs generalizing content with
  | nil => simp [run, Literal.quoteDoubled]
  | cons c rest ih =>
    have others := ih (content ++ [c])
    rw [List.append_assoc] at others
    by_cases quote : c = '\x27'
    · subst quote
      exact others
    · have single : Literal.quoteDoubled (c :: rest) = c :: Literal.quoteDoubled rest := by
        simp [Literal.quoteDoubled, quote]
      have step : (Reading.string content).step marks c = ([], .string (content ++ [c])) := by
        simp [Reading.step, quote]
      rw [single, run_cons, step, others]
      rfl

/-- Inside of a name nothing that is escaped ends it. -/
theorem run_name {m : NameMarks} (differ : m.closing ≠ '\\') (written cs : List Char) :
    run marks (.name m written) (cs.flatMap m.escape) =
      ([], .name m (written ++ cs.flatMap m.escape)) := by
  induction cs generalizing written with
  | nil => simp [run]
  | cons c rest ih =>
    have first : run marks (.name m written) (m.escape c) =
        ([], .name m (written ++ m.escape c)) := by
      unfold NameMarks.escape
      by_cases escapes : m.escapes = true
      · by_cases special : c = '\\' ∨ c = m.closing
        · simp [run, step, escapes, special, differ.symm]
        · have plain : c ≠ '\\' ∧ c ≠ m.closing := not_or.mp special
          simp [run, step, escapes, plain.1, plain.2]
      · by_cases closing : c = m.closing
        · simp [run, step, escapes, closing]
        · simp [run, step, escapes, closing]
    rw [List.flatMap_cons, run_append, first, ih, List.append_assoc]
    rfl

theorem codeStretch_agree (seen : List Char) :
    List.Forall₂ Stretch.Agree (codeStretch seen) (codeStretch seen) := by
  unfold codeStretch
  by_cases nothing : seen = []
  · rw [if_pos nothing]
    exact .nil
  · rw [if_neg nothing]
    exact .cons (.code seen) .nil

/-- An opening mark begins a name, or goes on with one that it seemed to end. -/
theorem step_opening {m : NameMarks} (own : marks = some m) (proper : m.Proper)
    {r r' : Reading} (agree : Agree marks .any r r') :
    ∃ written, (r.step marks m.opening).2 = .name m written ∧
      (r'.step marks m.opening).2 = .name m written ∧
      List.Forall₂ Stretch.Agree (r.step marks m.opening).1
        (r'.step marks m.opening).1 := by
  subst own
  have quote := proper.opening_ne
  have fresh : fresh (some m) m.opening = .name m [] := by simp [Reading.fresh, quote]
  have opening : opens (some m) m.opening = true := by simp [opens]
  cases agree with
  | code _ seen =>
    refine ⟨[], ?_, ?_, ?_⟩
    · simp only [step, if_pos opening, fresh]
    · simp only [step, if_pos opening, fresh]
    · simp only [step, if_pos opening]
      exact codeStretch_agree seen
  | @nameEnd _ m' own written =>
    obtain rfl := Option.some.inj own
    by_cases same : m.opening = m.closing
    · refine ⟨written ++ [m.opening, m.opening], ?_, ?_, ?_⟩
      · simp only [step, if_pos same]
      · simp only [step, if_pos same]
      · simp only [step, if_pos same]
        exact .nil
    · refine ⟨[], ?_, ?_, ?_⟩
      · simp only [step, if_neg same, fresh]
      · simp only [step, if_neg same, fresh]
      · simp only [step, if_neg same]
        exact .cons (.name m written) .nil
  | stringEnd content content' =>
    refine ⟨[], ?_, ?_, ?_⟩
    · simp only [step, if_neg quote, fresh]
    · simp only [step, if_neg quote, fresh]
    · simp only [step, if_neg quote]
      exact .cons (.string content content') .nil

end Reading

namespace Carries

variable {e e' : Edge} {cs ds : List Char}

/-- Code may stand everywhere, and keeps texts apart. -/
theorem code (proper : Proper marks) (some_code : cs ≠ []) (code : ∀ c ∈ cs, isCode c = true) :
    Carries marks e e' cs cs := by
  obtain ⟨c, rest, rfl⟩ := List.exists_cons_of_ne_nil some_code
  apply to_any
  apply from_any
  intro r r' agree
  have first := code c List.mem_cons_self
  have closed := Reading.opens_of_isCode proper first
  have fresh := Reading.fresh_of_isCode proper first
  have quote := Reading.ne_quote_of_isCode first
  have others : ∀ d ∈ rest, isCode d = true :=
    fun d member => code d (List.mem_cons_of_mem c member)
  rw [Reading.run_cons, Reading.run_cons]
  cases agree with
  | code _ seen =>
    have step : (Reading.code seen).step marks c = ([], .code (seen ++ [c])) := by
      simp [Reading.step, closed]
    rw [step, Reading.run_code proper others]
    exact ⟨.nil, .code _ _⟩
  | @nameEnd _ m own written =>
    have differs : c ≠ m.closing := by
      rintro rfl
      have closed := (proper m own).closing_closed
      rw [first] at closed
      cases closed
    have step : (Reading.nameEnd m written).step marks c = ([.name m written], .code [c]) := by
      simp [Reading.step, differs, fresh]
    rw [step, Reading.run_code proper others]
    exact ⟨.cons (.name m written) .nil, .code _ _⟩
  | stringEnd content content' =>
    have step (content : List Char) :
        (Reading.stringEnd content).step marks c = ([.string content], .code [c]) := by
      simp [Reading.step, quote, fresh]
    rw [step, step, Reading.run_code proper others]
    exact ⟨.cons (.string content content') .nil, .code _ _⟩

/-- Quoted texts, behind anything but a text. -/
theorem quoted (proper : Proper marks) (cs ds : List Char) :
    Carries marks .clear .any ('\x27' :: (Literal.quoteDoubled cs ++ ['\x27']))
      ('\x27' :: (Literal.quoteDoubled ds ++ ['\x27'])) := by
  intro r r' agree
  have inside (cs : List Char) :
      Reading.run marks (.string []) (Literal.quoteDoubled cs ++ ['\x27']) =
        ([], .stringEnd cs) := by
    rw [Reading.run_append, Reading.run_string]
    rfl
  have opening : Reading.opens marks '\x27' = true := by simp [Reading.opens]
  have fresh : Reading.fresh marks '\x27' = .string [] := rfl
  rw [Reading.run_cons, Reading.run_cons]
  cases agree with
  | code _ seen =>
    have step : (Reading.code seen).step marks '\x27' =
        (Reading.codeStretch seen, .string []) := by
      simp [Reading.step, opening, fresh]
    rw [step, inside, inside, List.append_nil]
    exact ⟨Reading.codeStretch_agree seen, .stringEnd cs ds⟩
  | @nameEnd _ m own written =>
    have differs : '\x27' ≠ m.closing := (proper m own).closing_ne.symm
    have step : (Reading.nameEnd m written).step marks '\x27' =
        ([.name m written], .string []) := by
      simp [Reading.step, differs, fresh]
    rw [step, inside, inside]
    exact ⟨.cons (.name m written) .nil, .stringEnd cs ds⟩

/-- A quoted name. -/
theorem name {m : NameMarks} (own : marks = some m) (proper : m.Proper) (cs : List Char) :
    Carries marks e e' (m.quote cs) (m.quote cs) := by
  apply from_any
  intro r r' agree
  obtain ⟨written, left, right, ended⟩ := Reading.step_opening own proper agree
  have inside (written : List Char) :
      Reading.run marks (.name m written) (cs.flatMap m.escape) =
        ([], .name m (written ++ cs.flatMap m.escape)) :=
    Reading.run_name proper.closing_ne_escape written cs
  rw [NameMarks.quote, Reading.run_cons, Reading.run_cons, left, right, Reading.run_append, inside]
  by_cases escapes : m.escapes = true
  · have closed (written : List Char) :
        Reading.run marks (.name m written) [m.closing] = ([.name m written], .code []) := by
      simp [Reading.run, Reading.step, escapes]
    rw [closed]
    exact ⟨List.rel_append ended (.cons (.name m _) .nil), .code e' []⟩
  · have closed (written : List Char) :
        Reading.run marks (.name m written) [m.closing] = ([], .nameEnd m written) := by
      simp [Reading.run, Reading.step, escapes]
    rw [closed]
    exact ⟨List.rel_append ended .nil, .nameEnd e' own _⟩

end Carries

/-- At the end of a statement nothing is torn. -/
theorem Reading.Agree.finish {e : Edge} {r r' : Reading} (h : Agree marks e r r') :
    List.Forall₂ Stretch.Agree r.finish r'.finish := by
  cases h with
  | code _ seen => exact codeStretch_agree seen
  | nameEnd _ own written => exact .cons (.name _ written) .nil
  | stringEnd content content' => exact .cons (.string content content') .nil

/-- What corresponds as a whole is cut into stretches that agree. -/
theorem Carries.stretches {cs ds : List Char} {e : Edge} (h : Carries marks .clear e cs ds) :
    List.Forall₂ Stretch.Agree (stretches marks cs) (stretches marks ds) := by
  obtain ⟨ended, outside⟩ := h (.code []) (.code []) (.code .clear [])
  exact List.rel_append ended outside.finish

/-- Two tokens that are equal and not torn, or two texts. -/
inductive Token.Agree : Token → Token → Prop
  | string (content content' : List Char) : Agree (.string content) (.string content')
  | name (written : List Char) : Agree (.name written) (.name written)
  | word (cs : List Char) : Agree (.word cs) (.word cs)
  | number (cs : List Char) : Agree (.number cs) (.number cs)
  | mark (c : Char) : Agree (.mark c) (.mark c)

/-- What agrees with the same tokens agrees. -/
theorem Token.agree_of_common {as bs cs : List Token} (h : List.Forall₂ Token.Agree as cs)
    (h' : List.Forall₂ Token.Agree bs cs) : List.Forall₂ Token.Agree as bs := by
  induction h generalizing bs with
  | nil =>
    cases h'
    exact .nil
  | cons first _ ih =>
    obtain ⟨b, rest, second, others, rfl⟩ := List.forall₂_cons_right_iff.mp h'
    refine .cons ?_ (ih others)
    cases first with
    | string content _ =>
      cases second with
      | string content' _ => exact .string content content'
    | name written =>
      cases second
      exact .name written
    | word cs =>
      cases second
      exact .word cs
    | number cs =>
      cases second
      exact .number cs
    | mark c =>
      cases second
      exact .mark c

/-- The tokens of code are equal to themselves, and none of them is torn. -/
theorem codeTokens_agree (seen cs : List Char) :
    List.Forall₂ Token.Agree (codeTokens seen cs) (codeTokens seen cs) := by
  have word (seen : List Char) :
      List.Forall₂ Token.Agree (wordToken seen) (wordToken seen) := by
    unfold wordToken
    cases seen with
    | nil => exact .nil
    | cons c rest =>
      by_cases digit : c.isDigit = true
      · simp only [if_pos digit]
        exact .cons (.number _) .nil
      · simp only [if_neg digit]
        exact .cons (.word _) .nil
  induction cs generalizing seen with
  | nil => exact word seen
  | cons c rest ih =>
    unfold codeTokens
    by_cases goes_on : continues seen c = true
    · rw [if_pos goes_on]
      exact ih (seen ++ [c])
    · rw [if_neg goes_on]
      refine List.rel_append (List.rel_append (word seen) ?_) (ih [])
      by_cases blank : isBlank c = true
      · rw [if_pos blank]
        exact .nil
      · rw [if_neg blank]
        exact .cons (.mark c) .nil

theorem Stretch.Agree.tokens {s t : Stretch} (h : Agree s t) :
    List.Forall₂ Token.Agree s.tokens t.tokens := by
  cases h with
  | string content content' => exact .cons (.string content content') .nil
  | name m written => exact .cons (.name written) .nil
  | code cs => exact codeTokens_agree [] cs

/-- Statements that correspond have the same tokens, apart from what stands in texts. -/
theorem Carries.tokens {s t : String} {e : Edge} (h : Carries marks .clear e s.toList t.toList) :
    List.Forall₂ Token.Agree (tokens marks s) (tokens marks t) := by
  have cut := h.stretches
  unfold Lexing.tokens
  generalize Lexing.stretches marks s.toList = left at cut ⊢
  generalize Lexing.stretches marks t.toList = right at cut ⊢
  induction cut with
  | nil => exact .nil
  | cons first _ ih => exact List.rel_append first.tokens ih

end SqlScribe.Lexing

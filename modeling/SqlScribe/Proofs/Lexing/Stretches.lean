import SqlScribe.Proofs.Literal.Forms

/-!
# Statements cut into tokens

A statement is read character by character. Text stands between single quotes, a single quote inside
it being doubled; names stand between the marks of the dialect; all else is code, and is made of
words, numbers and punctuation. Nothing is lost: the stretches spell the text they were cut from.
-/

namespace SqlScribe.Lexing

open SqlScribe.Text

/-- How names are quoted: between two marks, of which the closing one is doubled inside a name or
has a backslash before it. -/
structure NameMarks where
  opening : Char
  closing : Char
  escapes : Bool
deriving DecidableEq

/-- A part of a statement. -/
inductive Stretch
  /-- Text between single quotes, no longer doubled. -/
  | string (content : List Char)
  /-- A quoted name as it is written between its marks. -/
  | name (marks : NameMarks) (written : List Char)
  | code (cs : List Char)
  /-- Text or a name that is never closed, from its opening mark on. -/
  | torn (cs : List Char)
deriving DecidableEq

/-- What has been read since the last stretch ended. -/
inductive Reading
  | code (seen : List Char)
  | string (content : List Char)
  /-- Text behind its closing quote, unless another quote follows. -/
  | stringEnd (content : List Char)
  | name (marks : NameMarks) (written : List Char)
  | escaped (marks : NameMarks) (written : List Char)
  /-- A name behind its closing mark, unless another one follows. -/
  | nameEnd (marks : NameMarks) (written : List Char)

namespace Reading

/-- The character opens a text or a name. -/
def opens (marks : Option NameMarks) (c : Char) : Bool :=
  c == '\x27' || marks.any (·.opening == c)

/-- What begins with a character. -/
def fresh (marks : Option NameMarks) (c : Char) : Reading :=
  if c = '\x27' then string []
  else
    match marks with
    | some m => if m.opening = c then name m [] else code [c]
    | none => code [c]

/-- Code that has been seen, if any. -/
def codeStretch (seen : List Char) : List Stretch := if seen = [] then [] else [.code seen]

/-- Reads one character: the stretches that end before it, and what is read then. -/
def step (marks : Option NameMarks) (c : Char) : Reading → List Stretch × Reading
  | code seen =>
    if opens marks c then (codeStretch seen, fresh marks c) else ([], code (seen ++ [c]))
  | string content => if c = '\x27' then ([], stringEnd content) else ([], string (content ++ [c]))
  | stringEnd content =>
    if c = '\x27' then ([], string (content ++ [c])) else ([.string content], fresh marks c)
  | name m written =>
    if c = m.closing then
      if m.escapes then ([.name m written], code []) else ([], nameEnd m written)
    else if m.escapes && c == '\\' then ([], escaped m (written ++ [c]))
    else ([], name m (written ++ [c]))
  | escaped m written => ([], name m (written ++ [c]))
  | nameEnd m written =>
    if c = m.closing then ([], name m (written ++ [c, c])) else ([.name m written], fresh marks c)

/-- What is left at the end of a statement. -/
def finish : Reading → List Stretch
  | code seen => codeStretch seen
  | string content => [.torn ('\x27' :: Literal.quoteDoubled content)]
  | stringEnd content => [.string content]
  | name m written | escaped m written => [.torn (m.opening :: written)]
  | nameEnd m written => [.name m written]

/-- Reads characters one after the other. -/
def run (marks : Option NameMarks) (r : Reading) : List Char → List Stretch × Reading
  | [] => ([], r)
  | c :: rest =>
    let (ended, next) := r.step marks c
    let (more, last) := run marks next rest
    (ended ++ more, last)

theorem run_cons (marks : Option NameMarks) (r : Reading) (c : Char) (rest : List Char) :
    run marks r (c :: rest) =
      ((r.step marks c).1 ++ (run marks (r.step marks c).2 rest).1,
        (run marks (r.step marks c).2 rest).2) := rfl

theorem run_append (marks : Option NameMarks) (r : Reading) (cs more : List Char) :
    run marks r (cs ++ more) =
      ((run marks r cs).1 ++ (run marks (run marks r cs).2 more).1,
        (run marks (run marks r cs).2 more).2) := by
  induction cs generalizing r with
  | nil => simp [run]
  | cons c rest ih => rw [List.cons_append, run_cons, run_cons, ih, List.append_assoc]

end Reading

/-- The stretches of a statement. -/
def stretches (marks : Option NameMarks) (cs : List Char) : List Stretch :=
  (Reading.run marks (.code []) cs).1 ++ (Reading.run marks (.code []) cs).2.finish

/-- The characters that a stretch was cut from. -/
def Stretch.spell : Stretch → List Char
  | string content => '\x27' :: Literal.quoteDoubled content ++ ['\x27']
  | name m written => m.opening :: written ++ [m.closing]
  | code cs | torn cs => cs

/-- The characters that were read since the last stretch ended. -/
def Reading.pending : Reading → List Char
  | code seen => seen
  | string content => '\x27' :: Literal.quoteDoubled content
  | stringEnd content => '\x27' :: Literal.quoteDoubled content ++ ['\x27']
  | name m written | escaped m written => m.opening :: written
  | nameEnd m written => m.opening :: written ++ [m.closing]

namespace Reading

theorem spell_codeStretch (seen : List Char) :
    (codeStretch seen).flatMap Stretch.spell = seen := by
  unfold codeStretch
  by_cases nothing : seen = []
  · rw [if_pos nothing, nothing]
    rfl
  · rw [if_neg nothing]
    simp [Stretch.spell]

theorem pending_fresh (marks : Option NameMarks) (c : Char) :
    (fresh marks c).pending = [c] := by
  unfold fresh
  by_cases quote : c = '\x27'
  · rw [if_pos quote, quote]
    rfl
  · rw [if_neg quote]
    cases marks with
    | none => rfl
    | some m =>
      by_cases same : m.opening = c
      · simp only [if_pos same]
        exact congrArg (fun c => [c]) same
      · simp only [if_neg same]
        rfl

theorem quoteDoubled_append (cs more : List Char) :
    Literal.quoteDoubled (cs ++ more) = Literal.quoteDoubled cs ++ Literal.quoteDoubled more := by
  rw [Literal.quoteDoubled, List.flatMap_append]
  rfl

/-- A character is in a stretch that has ended, or it is pending. -/
theorem spell_step (marks : Option NameMarks) (c : Char) (r : Reading) :
    (r.step marks c).1.flatMap Stretch.spell ++ (r.step marks c).2.pending = r.pending ++ [c] := by
  cases r with
  | code seen =>
    by_cases opening : opens marks c = true
    · simp only [step, if_pos opening, spell_codeStretch]
      rw [pending_fresh]
      rfl
    · simp [step, opening, pending]
  | string content =>
    by_cases quote : c = '\x27'
    · simp [step, quote, pending]
    · have single : Literal.quoteDoubled [c] = [c] := by simp [Literal.quoteDoubled, quote]
      simp [step, quote, pending, quoteDoubled_append, single]
  | stringEnd content =>
    by_cases quote : c = '\x27'
    · have twice : Literal.quoteDoubled ['\x27'] = ['\x27', '\x27'] := rfl
      simp [step, quote, pending, quoteDoubled_append, twice]
    · simp only [step, if_neg quote]
      rw [pending_fresh]
      simp [Stretch.spell, pending]
  | name m written =>
    by_cases closing : c = m.closing
    · by_cases escapes : m.escapes = true
      · simp [step, closing, escapes, Stretch.spell, pending]
      · simp [step, closing, escapes, pending]
    · by_cases escape : (m.escapes && c == '\\') = true
      · simp [step, closing, escape, pending]
      · simp [step, closing, escape, pending]
  | escaped m written => simp [step, pending]
  | nameEnd m written =>
    by_cases closing : c = m.closing
    · simp [step, closing, pending]
    · simp only [step, if_neg closing]
      rw [pending_fresh]
      simp [Stretch.spell, pending]

theorem spell_run (marks : Option NameMarks) (r : Reading) (cs : List Char) :
    (run marks r cs).1.flatMap Stretch.spell ++ (run marks r cs).2.pending = r.pending ++ cs := by
  induction cs generalizing r with
  | nil => simp [run]
  | cons c rest ih =>
    have first := spell_step marks c r
    have others := ih (r.step marks c).2
    rw [run_cons, List.flatMap_append, List.append_assoc, others, ← List.append_assoc, first,
      List.append_assoc, List.singleton_append]

theorem spell_finish (r : Reading) : r.finish.flatMap Stretch.spell = r.pending := by
  cases r with
  | code seen => exact spell_codeStretch seen
  | _ => simp [finish, Stretch.spell, pending]

end Reading

/-- Cutting loses nothing. -/
theorem spell_stretches (marks : Option NameMarks) (cs : List Char) :
    (stretches marks cs).flatMap Stretch.spell = cs := by
  have all := Reading.spell_run marks (.code []) cs
  rw [stretches, List.flatMap_append, Reading.spell_finish, all]
  rfl

/-- A token of a statement. -/
inductive Token
  | string (content : List Char)
  | name (written : List Char)
  | word (cs : List Char)
  | number (cs : List Char)
  | mark (c : Char)
  | torn (cs : List Char)
deriving DecidableEq

/-- A word or a number, if any characters have been seen. -/
def wordToken (seen : List Char) : List Token :=
  match seen with
  | [] => []
  | c :: _ => if c.isDigit then [.number seen] else [.word seen]

/-- The character goes on with a word; a point goes on with a number. -/
def continues (seen : List Char) (c : Char) : Bool :=
  Identifier.isWordChar c || (c == '.' && (seen.head?.any Char.isDigit))

/-- The words, numbers and other marks of code; blanks only keep these apart. -/
def codeTokens (seen : List Char) : List Char → List Token
  | [] => wordToken seen
  | c :: rest =>
    if continues seen c then codeTokens (seen ++ [c]) rest
    else wordToken seen ++ (if isBlank c then [] else [.mark c]) ++ codeTokens [] rest

def Stretch.tokens : Stretch → List Token
  | string content => [.string content]
  | name _ written => [.name written]
  | code cs => codeTokens [] cs
  | torn cs => [.torn cs]

/-- The tokens of a statement, names being quoted by some marks. -/
def tokens (marks : Option NameMarks) (sql : String) : List Token :=
  (stretches marks sql.toList).flatMap Stretch.tokens

example : tokens (some ⟨'[', ']', false⟩) "[a]]'b] = N'it''s [' OR n1<1.5" =
    [.name "a]]'b".toList, .mark '=', .word ['N'], .string "it's [".toList, .word "OR".toList,
      .word "n1".toList, .mark '<', .number "1.5".toList] := by
  decide +kernel

end SqlScribe.Lexing

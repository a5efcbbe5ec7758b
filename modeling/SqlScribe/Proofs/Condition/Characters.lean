import SqlScribe.Proofs.Condition.Syntax
import SqlScribe.Text.Numeral

/-!
# Conditions read from their characters

The text of a condition is read as SQL reads it. Blanks separate, letters next to each other make a
word, the signs of a comparison make an operator, and a comparison of two numbers holds always or
never. Expressions, constants and patterns stand between the characters as units: what they denote
does not depend on how a dialect spells them.
-/

namespace SqlScribe.Sql

/-- What counts as a unit in the text of a condition. -/
inductive Atom
  | scalar (s : Scalar)
  | constant (c : Constant)
  | pattern (p : LikePattern)

/-- What the text of a condition consists of. -/
inductive Glyph
  | char (c : Char)
  | atom (a : Atom)

/-- The characters of a text. -/
def spell (s : String) : List Glyph := s.toList.map .char

/-! ## From characters to symbols -/

/-- Which characters make one symbol with their like. -/
inductive CharClass
  | word
  | operator
  | quoted
deriving DecidableEq

/-- The class of a character; blanks and parentheses, for example, have none. -/
def classOf? (c : Char) : Option CharClass :=
  if c.isAlphanum || c = '_' then some .word
  else if c = '<' || c = '=' || c = '>' then some .operator
  else if c = '\x27' || c = '\\' then some .quoted
  else none

/-- The class of what stands next to a character, if that is a character. -/
def Glyph.class? : Glyph → Option CharClass
  | char c => classOf? c
  | atom _ => none

/-- What belongs together in a text. -/
inductive Chunk
  | run (cs : List Char)
  | atom (a : Atom)

/-- Puts a character in front of what it belongs together with. -/
def extend (c : Char) : List Chunk → List Chunk
  | .run cs :: rest => .run (c :: cs) :: rest
  | rest => .run [c] :: rest

/-- Puts a character in front of the chunks of what follows it: neighbours of one class belong to
one symbol. -/
def attach (c : Char) (next : Option Glyph) (rest : List Chunk) : List Chunk :=
  if (classOf? c).isSome && next.bind Glyph.class? = classOf? c then extend c rest
  else .run [c] :: rest

/-- Cuts a text into what belongs together; blanks are left out. -/
def chunks : List Glyph → List Chunk
  | [] => []
  | .atom a :: rest => .atom a :: chunks rest
  | .char c :: rest => if c.isWhitespace then chunks rest else attach c rest.head? (chunks rest)

/-- What can stand in a condition, as SQL has it. -/
inductive Symbol
  | not
  | and
  | or
  | is
  | null
  | oneOf
  | like
  | escape
  | between
  | truth (b : Bool)
  | comparison (op : Comparison)
  | opening
  | closing
  | comma
  | number (n : Nat)
  | backslash
  | atom (a : Atom)
  | stray

/-- What words and signs mean. -/
def vocabulary : List (String × Symbol) :=
  [("NOT", .not), ("AND", .and), ("OR", .or), ("IS", .is), ("NULL", .null), ("IN", .oneOf),
    ("LIKE", .like), ("ESCAPE", .escape), ("BETWEEN", .between), ("TRUE", .truth true),
    ("FALSE", .truth false), ("=", .comparison .eq), ("<>", .comparison .ne),
    ("<", .comparison .lt), ("<=", .comparison .le), (">", .comparison .gt),
    (">=", .comparison .ge), ("(", .opening), (")", .closing), (",", .comma),
    ("'\\'", .backslash)]

/-- The symbol of a word, an operator or a number; words are not told apart by their case. -/
def Symbol.ofRun (cs : List Char) : Symbol :=
  match vocabulary.lookup (String.ofList (cs.map Char.toUpper)) with
  | some symbol => symbol
  | none => if cs.all Char.isDigit then .number (Text.ofDigits cs) else .stray

def Symbol.ofChunk : Chunk → Symbol
  | .run cs => ofRun cs
  | .atom a => .atom a

/-- The symbols of a text. -/
def symbols (text : List Glyph) : List Symbol := (chunks text).map .ofChunk

/-! ## From symbols to lexemes -/

/-- What a symbol is by itself, if it is anything. -/
def Symbol.lexeme? : Symbol → Option Lexeme
  | not => some .not
  | and => some .and
  | or => some .or
  | oneOf => some .oneOf
  | like => some .like
  | between => some .between
  | truth b => some (.truth b)
  | comparison op => some (.comparison op)
  | opening => some .opening
  | closing => some .closing
  | comma => some .comma
  | atom (.scalar s) => some (.scalar s)
  | atom (.constant c) => some (.constant c)
  | atom (.pattern p) => some (.pattern p)
  | is | null | escape | number _ | backslash | stray => none

/-- The lexemes that symbols make, which may be more than one for each: a test for NULL, two
numbers compared, and a pattern with the backslash as its escape character. -/
def lexemesOf : List Symbol → Option (List Lexeme)
  | [] => some []
  | .is :: .null :: rest => (.isNull false :: ·) <$> lexemesOf rest
  | .is :: .not :: .null :: rest => (.isNull true :: ·) <$> lexemesOf rest
  | .number m :: .comparison op :: .number n :: rest =>
    (.truth (op.holds (compare m n)) :: ·) <$> lexemesOf rest
  | .atom (.pattern p) :: .escape :: .backslash :: rest => (.pattern p :: ·) <$> lexemesOf rest
  | symbol :: rest => do
    let word ← symbol.lexeme?
    (word :: ·) <$> lexemesOf rest

/-- The lexemes in a text. -/
def lexemesIn (text : List Glyph) : Option (List Lexeme) := lexemesOf (symbols text)

/-- Reads the text of a condition. -/
def readText (text : List Glyph) : Option Condition := lexemesIn text >>= read

/-! ## What stands behind a text -/

theorem chunks_char (c : Char) (rest : List Glyph) :
    chunks (.char c :: rest) =
      if c.isWhitespace then chunks rest else attach c rest.head? (chunks rest) := rfl

theorem classOf?_of_blank {c : Char} (blank : c.isWhitespace = true) : classOf? c = none := by
  simp only [Char.isWhitespace, Bool.or_eq_true, decide_eq_true_eq] at blank
  obtain ((rfl | rfl) | rfl) | rfl := blank <;> rfl

/-- A character with no class to join stands alone. -/
theorem attach_alone {c : Char} {next : Option Glyph} (rest : List Chunk)
    (alone : classOf? c = none ∨ next.bind Glyph.class? = none) :
    attach c next rest = .run [c] :: rest := by
  unfold attach
  obtain own | beside := alone
  · simp [own]
  · rw [beside]
    cases classOf? c <;> rfl

theorem attach_ne_nil (c : Char) (next : Option Glyph) (rest : List Chunk) :
    attach c next rest ≠ [] := by
  intro nothing
  unfold attach extend at nothing
  split at nothing
  · split at nothing <;> cases nothing
  · cases nothing

theorem extend_append (c : Char) {found : List Chunk} (some_chunk : found ≠ [])
    (more : List Chunk) : extend c (found ++ more) = extend c found ++ more := by
  match found with
  | .run cs :: rest => rfl
  | .atom a :: rest => rfl
  | [] => exact absurd rfl some_chunk

/-- A character is put in front of the chunks of a text as if nothing followed the text. -/
theorem attach_append (c : Char) (next : Glyph) (rest : List Glyph) (more : List Chunk) :
    attach c (some next) (chunks (next :: rest) ++ more) =
      attach c (some next) (chunks (next :: rest)) ++ more := by
  cases next with
  | atom a =>
    rw [attach_alone _ (.inr rfl), attach_alone _ (.inr rfl)]
    rfl
  | char next =>
    cases blank : next.isWhitespace with
    | true =>
      have classless : (some (Glyph.char next)).bind Glyph.class? = none := classOf?_of_blank blank
      rw [attach_alone _ (.inr classless), attach_alone _ (.inr classless)]
      rfl
    | false =>
      have some_chunk : chunks (.char next :: rest) ≠ [] := by
        rw [chunks_char, blank, if_neg (by decide)]
        exact attach_ne_nil next _ _
      unfold attach
      split
      · exact extend_append c some_chunk more
      · rfl

/-- The two texts do not run into each other: the first one ends, or the second one begins, with
what joins nothing. -/
def Parted (text more : List Glyph) : Prop :=
  text.getLast?.bind Glyph.class? = none ∨ more.head?.bind Glyph.class? = none

theorem chunks_append {text more : List Glyph} (parted : Parted text more) :
    chunks (text ++ more) = chunks text ++ chunks more := by
  induction text with
  | nil => rfl
  | cons g rest ih =>
    have inside : chunks (rest ++ more) = chunks rest ++ chunks more := by
      cases rest with
      | nil => rfl
      | cons next rest => exact ih (by simpa [Parted] using parted)
    cases g with
    | atom a => exact congrArg (Chunk.atom a :: ·) inside
    | char c =>
      rw [List.cons_append, chunks_char, chunks_char, inside]
      split
      · rfl
      · cases rest with
        | nil =>
          have last : attach c none [] = [.run [c]] := attach_alone [] (.inr rfl)
          exact (attach_alone _ parted).trans (congrArg (· ++ chunks more) last).symm
        | cons next rest => exact attach_append c next rest (chunks more)

theorem symbols_append {text more : List Glyph} (parted : Parted text more) :
    symbols (text ++ more) = symbols text ++ symbols more := by
  rw [symbols, chunks_append parted, List.map_append]
  rfl

theorem eq_nil_of_lexemesOf {found : List Symbol} (h : lexemesOf found = some []) :
    found = [] := by
  unfold lexemesOf at h
  split at h
  · rfl
  all_goals simp [Option.bind_eq_some_iff] at h

/-- Symbols that are a constant by themselves are one in front of anything else. -/
theorem lexemesOf_truth_append {found : List Symbol} {b : Bool}
    (h : lexemesOf found = some [.truth b]) (more : List Symbol) :
    lexemesOf (found ++ more) = (.truth b :: ·) <$> lexemesOf more := by
  unfold lexemesOf at h
  split at h
  case h_4 m op n rest =>
    simp only [Option.map_eq_map, Option.map_eq_some_iff, List.cons.injEq, Lexeme.truth.injEq] at h
    obtain ⟨_, nothing, rfl, rfl⟩ := h
    rw [eq_nil_of_lexemesOf nothing]
    rfl
  case h_6 symbol rest _ _ _ _ =>
    cases symbol with
    | truth b' =>
      simp [Symbol.lexeme?] at h
      obtain ⟨nothing, rfl⟩ := h
      rw [eq_nil_of_lexemesOf nothing]
      rfl
    | atom a => cases a <;> simp [Symbol.lexeme?] at h
    | _ => simp [Symbol.lexeme?] at h
  all_goals simp at h

example : lexemesIn (spell "1=1 and NOT (1 <> 1)") =
    some [.truth true, .and, .not, .opening, .truth false, .closing] := by
  rfl

end SqlScribe.Sql

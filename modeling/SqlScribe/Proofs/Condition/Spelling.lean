import SqlScribe.Dialect.Builtin
import SqlScribe.Proofs.Condition.Characters
import SqlScribe.Proofs.Condition.Emission

/-!
# Conditions spelled out

The words of a condition are written as characters with units between them, and are read back from
those characters. For that the dialect has to name what always and never holds in words of SQL, and
to escape with a backslash or without a word.
-/

namespace SqlScribe

open Sql Emit

/-- The dialect writes its constants and its escape clause in words that are read as what they are
for. -/
structure Dialect.PlainWords (d : Dialect) : Prop where
  truth : ∀ b, lexemesIn (spell (d.truth b)) = some [.truth b]
  escape : symbols (spell d.likeEscapeClause) = [] ∨
    symbols (spell d.likeEscapeClause) = [.escape, .backslash]

theorem Builtin.plainWords (b : Builtin) : b.dialect.PlainWords := by
  cases b
  case dataView => exact ⟨fun b => by cases b <;> rfl, .inl rfl⟩
  case mssql | access => exact ⟨fun b => by cases b <;> rfl, .inl rfl⟩
  all_goals exact ⟨fun b => by cases b <;> rfl, .inr rfl⟩

namespace Sql

/-- A piece of the text of a condition. -/
inductive Passage
  | words (s : String)
  | atom (a : Atom)

/-- Writes a unit. -/
def Atom.emit (d : Dialect) : Atom → Emit Unit
  | scalar s => do Emit.text (← attempt (s.render d))
  | constant c => c.emit d
  | pattern p => value d (.string (p.text d)) .string

def Passage.emit (d : Dialect) : Passage → Emit Unit
  | words s => Emit.text s
  | atom a => a.emit d

def Passage.glyphs : Passage → List Glyph
  | words s => spell s
  | atom a => [.atom a]

/-- Writes pieces one after the other. -/
def emitPassages (d : Dialect) : List Passage → Emit Unit
  | [] => pure ()
  | p :: rest => do
    p.emit d
    emitPassages d rest

/-- The pieces of a word. -/
def Lexeme.passages (d : Dialect) : Lexeme → List Passage
  | scalar s => [.atom (.scalar s)]
  | constant c => [.atom (.constant c)]
  | pattern p => [.atom (.pattern p), .words ((pattern p).words d)]
  | word => [.words (word.words d)]

/-- The characters and units of a word. -/
def Lexeme.glyphs (d : Dialect) : Lexeme → List Glyph
  | scalar s => [.atom (.scalar s)]
  | constant c => [.atom (.constant c)]
  | pattern p => .atom (.pattern p) :: spell ((pattern p).words d)
  | word => spell (word.words d)

/-- The pieces that a condition is written with. -/
def Condition.passages (d : Dialect) (c : Condition) : List Passage :=
  c.lexemes.flatMap (Lexeme.passages d)

/-- The characters and units that a condition is written with. -/
def Condition.glyphs (d : Dialect) (c : Condition) : List Glyph :=
  (c.passages d).flatMap Passage.glyphs

variable {d : Dialect}

theorem emitPassages_append (ps more : List Passage) :
    emitPassages d (ps ++ more) = (do emitPassages d ps; emitPassages d more) := by
  induction ps with
  | nil => simp [emitPassages]
  | cons p rest ih => simp [emitPassages, ih]

theorem Lexeme.emitPassages_passages (word : Lexeme) :
    emitPassages d (word.passages d) = word.emit d := by
  cases word <;> simp [Lexeme.passages, emitPassages, Passage.emit, Atom.emit, Lexeme.emit]

theorem Lexeme.flatMap_glyphs (word : Lexeme) :
    (word.passages d).flatMap Passage.glyphs = word.glyphs d := by
  cases word <;> simp [Lexeme.passages, Passage.glyphs, Lexeme.glyphs]

/-- Words are written piece by piece. -/
theorem emitPassages_words (words : List Lexeme) :
    emitPassages d (words.flatMap (Lexeme.passages d)) = emitAll d words := by
  induction words with
  | nil => rfl
  | cons word rest ih =>
    rw [List.flatMap_cons, emitPassages_append, word.emitPassages_passages, ih]
    rfl

/-! ## One word -/

/-- What may stand behind something that is written without a blank or a parenthesis at its end. -/
inductive Follows : List Glyph → Prop
  | nothing : Follows []
  | and (rest : List Glyph) : Follows (spell " AND " ++ rest)
  | or (rest : List Glyph) : Follows (spell " OR " ++ rest)
  | closing (rest : List Glyph) : Follows (spell ")" ++ rest)

theorem Follows.class?_eq_none {rest : List Glyph} (h : Follows rest) :
    rest.head?.bind Glyph.class? = none := by
  cases h <;> rfl

/-- What follows is not the announcement of an escape character. -/
theorem Follows.lexemesOf_pattern (p : LikePattern) {rest : List Glyph} (h : Follows rest) :
    lexemesOf (.atom (.pattern p) :: symbols rest) = (.pattern p :: ·) <$> lexemesIn rest := by
  cases h with
  | nothing => rfl
  | and rest | or rest | closing rest =>
    rw [lexemesIn, symbols_append (.inl rfl)]
    rfl

/-- The word is written without a blank or a parenthesis at its end. -/
def Lexeme.OpenEnded : Lexeme → Prop
  | truth _ | isNull _ | pattern _ => True
  | _ => False

/-- A text whose symbols make a word is read as that word, if it does not run into what follows. -/
theorem lexemesIn_text {s : String} {found : List Symbol} {word : Lexeme} {rest : List Glyph}
    (text : symbols (spell s) = found)
    (makes : ∀ more, lexemesOf (found ++ more) = (word :: ·) <$> lexemesOf more)
    (parted : Parted (spell s) rest) :
    lexemesIn (spell s ++ rest) = (word :: ·) <$> lexemesIn rest := by
  rw [lexemesIn, symbols_append parted, text, makes]
  rfl

/-- The text is one symbol, and ends in a blank or is a parenthesis. -/
def Closed (s : String) (symbol : Symbol) : Prop :=
  symbols (spell s) = [symbol] ∧ (spell s).getLast?.bind Glyph.class? = none

theorem Closed.lexemesIn {s : String} {symbol : Symbol} (text : Closed s symbol) {word : Lexeme}
    (makes : ∀ more, lexemesOf (symbol :: more) = (word :: ·) <$> lexemesOf more)
    (rest : List Glyph) : lexemesIn (spell s ++ rest) = (word :: ·) <$> lexemesIn rest :=
  lexemesIn_text text.1 makes (.inl text.2)

/-- The symbol of a word that all dialects write alike and that runs into nothing. -/
def Lexeme.symbol? : Lexeme → Option Symbol
  | comparison op => some (.comparison op)
  | oneOf => some .oneOf
  | like => some .like
  | between => some .between
  | not => some .not
  | and => some .and
  | or => some .or
  | opening => some .opening
  | closing => some .closing
  | comma => some .comma
  | truth _ | scalar _ | constant _ | pattern _ | isNull _ => none

theorem Lexeme.closed_words {word : Lexeme} {symbol : Symbol} (same : word.symbol? = some symbol) :
    Closed (word.words d) symbol := by
  -- Without the dialect each text is a closed one, which is read by evaluation.
  cases word <;> cases same <;> simp only [Lexeme.words]
  case comparison op => cases op <;> exact ⟨by rfl, by rfl⟩
  all_goals exact ⟨by rfl, by rfl⟩

theorem isNull_symbols (negated : Bool) :
    symbols (spell (if negated then " IS NOT NULL" else " IS NULL")) =
      if negated then [.is, .not, .null] else [.is, .null] := by
  cases negated <;> rfl

/-- A word is read from its characters, whatever follows it that may follow it. -/
theorem Lexeme.lexemesIn_glyphs (plain : d.PlainWords) (word : Lexeme) {rest : List Glyph}
    (follows : word.OpenEnded → Follows rest) :
    lexemesIn (word.glyphs d ++ rest) = (word :: ·) <$> lexemesIn rest := by
  cases word with
  | scalar s => rfl
  | constant c => rfl
  | truth b =>
    exact lexemesIn_text rfl (lexemesOf_truth_append (plain.truth b))
      (.inr (follows trivial).class?_eq_none)
  | pattern p =>
    have clause : symbols (spell d.likeEscapeClause ++ rest) =
        symbols (spell d.likeEscapeClause) ++ symbols rest :=
      symbols_append (.inr (follows trivial).class?_eq_none)
    change lexemesOf (.atom (.pattern p) :: symbols (spell d.likeEscapeClause ++ rest)) = _
    rw [clause]
    obtain without | backslash := plain.escape
    · rw [without]
      exact (follows trivial).lexemesOf_pattern p
    · rw [backslash]
      rfl
  | isNull negated =>
    refine lexemesIn_text (isNull_symbols negated) ?_ (.inr (follows trivial).class?_eq_none)
    cases negated <;> exact fun _ => rfl
  | comparison | oneOf | like | between | not | and | or | opening | closing | comma =>
    exact (Lexeme.closed_words rfl).lexemesIn (fun _ => rfl) rest

/-! ## A whole condition -/

/-- What may stand behind a condition. -/
def Delimited : List Lexeme → Prop
  | [] => True
  | word :: _ => word = .and ∨ word = .or ∨ word = .closing

/-- Nothing stands directly behind a word that would run into it. -/
def Separated : List Lexeme → Prop
  | [] => True
  | word :: rest => (word.OpenEnded → Delimited rest) ∧ Separated rest

theorem Delimited.follows {rest : List Lexeme} (h : Delimited rest) :
    Follows (rest.flatMap (Lexeme.glyphs d)) := by
  match rest, h with
  | [], _ => exact .nothing
  | _ :: rest, .inl rfl => exact .and _
  | _ :: rest, .inr (.inl rfl) => exact .or _
  | _ :: rest, .inr (.inr rfl) => exact .closing _

theorem lexemesIn_separated (plain : d.PlainWords) {words : List Lexeme} (h : Separated words) :
    lexemesIn (words.flatMap (Lexeme.glyphs d)) = some words := by
  induction words with
  | nil => rfl
  | cons word rest ih =>
    obtain ⟨delimited, later⟩ := h
    rw [List.flatMap_cons, word.lexemesIn_glyphs plain fun opened => (delimited opened).follows,
      ih later]
    rfl

/-- Anything may stand behind a word that ends in a blank or is a parenthesis. -/
theorem Separated.cons {word : Lexeme} {rest : List Lexeme} (closed : ¬ word.OpenEnded)
    (later : Separated rest) : Separated (word :: rest) :=
  ⟨fun opened => absurd opened closed, later⟩

theorem memberLexemes_separated (others : List Constant) {rest : List Lexeme}
    (later : Separated rest) : Separated (memberLexemes others ++ .closing :: rest) := by
  induction others with
  | nil => exact .cons id later
  | cons c others ih => exact .cons id (.cons id ih)

theorem Condition.lexemes_separated (c : Condition) {rest : List Lexeme} (ends : Delimited rest)
    (later : Separated rest) : Separated (c.lexemes ++ rest) := by
  induction c generalizing rest with
  | truth b => exact ⟨fun _ => ends, later⟩
  | compare lhs op c => exact .cons id (.cons id (.cons id later))
  | isNull lhs negated => exact .cons id ⟨fun _ => ends, later⟩
  | like lhs pattern => exact .cons id (.cons id ⟨fun _ => ends, later⟩)
  | between lhs low high => exact .cons id (.cons id (.cons id (.cons id (.cons id later))))
  | oneOf lhs first others =>
    have members := memberLexemes_separated others later
    simp only [lexemes, List.cons_append, List.append_assoc, List.nil_append]
    exact .cons id (.cons id (.cons id (.cons id members)))
  | enclosed inner ih =>
    have inside : Separated (inner.lexemes ++ .closing :: rest) :=
      ih (.inr (.inr rfl)) (.cons id later)
    simp only [lexemes, List.cons_append, List.append_assoc, List.nil_append]
    exact .cons id inside
  | not inner ih => exact .cons id (ih ends later)
  | and left right ihl ihr =>
    rw [lexemes_and, List.append_assoc, List.cons_append]
    exact ihl (.inl rfl) (.cons id (ihr ends later))
  | or left right ihl ihr =>
    rw [lexemes_or, List.append_assoc, List.cons_append]
    exact ihl (.inr (.inl rfl)) (.cons id (ihr ends later))

/-- A condition that stands with the parentheses it needs is read from its characters. -/
theorem Condition.readText_glyphs (plain : d.PlainWords) {c : Condition}
    (fits : c.Fits .disjunction) : readText (c.glyphs d) = some c := by
  have separated : Separated c.lexemes := by
    have all : Separated (c.lexemes ++ []) := c.lexemes_separated trivial trivial
    rwa [List.append_nil] at all
  have words : lexemesIn (c.glyphs d) = some c.lexemes := by
    simp only [Condition.glyphs, Condition.passages, List.flatMap_assoc, Lexeme.flatMap_glyphs]
    exact lexemesIn_separated plain separated
  rw [readText, words]
  exact read_lexemes fits

end Sql

end SqlScribe

import Mathlib.Data.List.Infix
import SqlScribe.Dialect.Builtin
import SqlScribe.Proofs.Condition.Emission
import SqlScribe.Proofs.Condition.Meaning

/-!
# What a pattern of LIKE finds

A database reads a pattern by its own rules, and a dialect escapes the texts in a pattern for one
kind of rules. Under these, the pattern for a beginning finds exactly the texts with that beginning,
and the pattern for a part exactly the texts with that part, whatever characters stand in it. That
is also what a table in memory answers.
-/

namespace SqlScribe

namespace Like

/-! ## Patterns -/

/-- A part of a pattern: a character that stands for itself, any one character, or any text. -/
inductive Part
  | char (c : Char)
  | one
  | many

/-- The characters that a database gives a meaning to in a pattern. -/
structure Rules where
  /-- The characters that stand for any text. -/
  many : List Char
  /-- The characters that stand for any one character. -/
  one : List Char
  /-- The character behind which every character stands for itself. -/
  escape : Option Char
  /-- One character between brackets stands for itself. -/
  classes : Bool

namespace Rules

/-- What a character means that is neither escaped nor in brackets. -/
def meaning (r : Rules) (c : Char) : Part :=
  if c ∈ r.many then .many else if c ∈ r.one then .one else .char c

/-- The parts of a pattern. There are none if nothing stands behind the escape character, or if a
bracket does not open a class of one character. -/
def parts (r : Rules) : List Char → Option (List Part)
  | [] => some []
  | c :: rest =>
    if r.escape = some c then
      match rest with
      | [] => none
      | kept :: rest => (r.parts rest).map (.char kept :: ·)
    else if r.classes ∧ c = '[' then
      match rest with
      | kept :: closing :: rest =>
        if closing = ']' then (r.parts rest).map (.char kept :: ·) else none
      | _ => none
    else (r.parts rest).map (r.meaning c :: ·)

end Rules

/-- The text is made as the parts say, from its first character to its last. -/
def matchesParts : List Part → List Char → Bool
  | [], text => text.isEmpty
  | .char c :: rest, text => text.head? == some c && matchesParts rest text.tail
  | .one :: rest, text => !text.isEmpty && matchesParts rest text.tail
  | .many :: rest, text => text.tails.any (matchesParts rest)

/-- The pattern finds the text. -/
def Rules.finds (r : Rules) (pattern text : String) : Bool :=
  (r.parts pattern.toList).any (matchesParts · text.toList)

/-! ## Texts that parts match -/

theorem matchesParts_many {rest : List Part} {text : List Char} :
    matchesParts (.many :: rest) text ↔ ∃ behind, behind <:+ text ∧ matchesParts rest behind := by
  simp only [matchesParts, List.any_eq_true, List.mem_tails]

/-- Any text is matched where only any text is asked for. -/
theorem matchesParts_anything (text : List Char) : matchesParts [.many] text :=
  matchesParts_many.mpr ⟨[], List.nil_suffix, rfl⟩

/-- Characters that stand for themselves are matched by themselves. -/
theorem matchesParts_chars {cs : List Char} {rest : List Part} {text : List Char} :
    matchesParts (cs.map .char ++ rest) text ↔
      ∃ behind, text = cs ++ behind ∧ matchesParts rest behind := by
  induction cs generalizing text with
  | nil => simp
  | cons c cs ih =>
    cases text with
    | nil => simp [matchesParts]
    | cons t text =>
      simp only [List.map_cons, List.cons_append, matchesParts, Bool.and_eq_true, ih,
        List.head?_cons, List.tail_cons, beq_iff_eq, Option.some.injEq, List.cons.injEq]
      constructor
      · rintro ⟨same, behind, text_eq, matched⟩
        exact ⟨behind, ⟨same, text_eq⟩, matched⟩
      · rintro ⟨behind, ⟨same, text_eq⟩, matched⟩
        exact ⟨same, behind, text_eq, matched⟩

theorem matchesParts_beginning {cs text : List Char} :
    matchesParts (cs.map .char ++ [.many]) text ↔ cs <+: text := by
  rw [matchesParts_chars]
  constructor
  · rintro ⟨behind, rfl, _⟩
    exact List.prefix_append cs behind
  · rintro ⟨behind, rfl⟩
    exact ⟨behind, rfl, matchesParts_anything behind⟩

theorem matchesParts_inside {cs text : List Char} :
    matchesParts (.many :: (cs.map .char ++ [.many])) text ↔ cs <:+: text := by
  rw [matchesParts_many, List.infix_iff_prefix_suffix]
  simp only [matchesParts_beginning, and_comm]

/-! ## Escaping -/

/-- What a character is escaped to stands for the character, whatever follows. -/
def Rules.Shields (r : Rules) (escape : Char → List Char) : Prop :=
  ∀ c rest, r.parts (escape c ++ rest) = (r.parts rest).map (.char c :: ·)

namespace Rules

variable {r : Rules}

theorem parts_meaning {c : Char} {rest : List Char} (unescaped : r.escape ≠ some c)
    (unbracketed : ¬(r.classes ∧ c = '[')) :
    r.parts (c :: rest) = (r.parts rest).map (r.meaning c :: ·) := by
  rw [parts.eq_def]
  simp only [unescaped, unbracketed, if_false]

theorem meaning_of_many {c : Char} (wild : c ∈ r.many) : r.meaning c = .many := if_pos wild

theorem meaning_of_plain {c : Char} (plain : c ∉ r.many ++ r.one) : r.meaning c = .char c := by
  rw [List.mem_append, not_or] at plain
  rw [meaning, if_neg plain.1, if_neg plain.2]

/-- An escaped text stands for its characters. -/
theorem parts_escaped {escape : Char → List Char} (shields : r.Shields escape)
    (cs rest : List Char) :
    r.parts (cs.flatMap escape ++ rest) = (r.parts rest).map (cs.map .char ++ ·) := by
  induction cs with
  | nil => simp
  | cons c cs ih =>
    rw [List.flatMap_cons, List.append_assoc, shields, ih, Option.map_map]
    rfl

/-- An escape character before everything that has a meaning, itself included. -/
theorem shields_of_escape {mark : Char} {special : Char → Prop} [DecidablePred special]
    (escapes : r.escape = some mark) (noClasses : r.classes = false) (marked : special mark)
    (covered : ∀ c ∈ r.many ++ r.one, special c) :
    r.Shields fun c => if special c then [mark, c] else [c] := by
  intro c rest
  by_cases h : special c
  · simp only [h, if_true, List.cons_append, List.nil_append, parts, escapes]
  · have other : r.escape ≠ some c := by
      rw [escapes]
      rintro ⟨⟩
      exact h marked
    have plain : c ∉ r.many ++ r.one := fun meant => h (covered c meant)
    simp only [h, if_false, List.cons_append, List.nil_append]
    rw [parts_meaning other (by simp [noClasses]), meaning_of_plain plain]

/-- A class around everything that has a meaning, the opening bracket included. -/
theorem shields_of_classes {special : Char → Prop} [DecidablePred special]
    (unescaped : r.escape = none) (classes : r.classes = true) (bracket : special '[')
    (covered : ∀ c ∈ r.many ++ r.one, special c) :
    r.Shields fun c => if special c then ['[', c, ']'] else [c] := by
  intro c rest
  by_cases h : special c
  · simp only [h, if_true, List.cons_append, List.nil_append, parts, unescaped, classes, and_self,
      reduceCtorEq, if_false]
  · have other : ¬(r.classes ∧ c = '[') := by
      rintro ⟨_, rfl⟩
      exact h bracket
    have plain : c ∉ r.many ++ r.one := fun meant => h (covered c meant)
    simp only [h, if_false, List.cons_append, List.nil_append]
    rw [parts_meaning (by simp [unescaped]) other, meaning_of_plain plain]

end Rules

/-! ## The patterns of the dialects -/

namespace Rules

/-- The wildcards of the standard, with a backslash before a character that is meant as itself. -/
def escaped : Rules := ⟨['%'], ['_'], some '\\', false⟩

/-- The wildcards of the standard, with classes of characters. -/
def bracketed : Rules := ⟨['%'], ['_'], none, true⟩

/-- Two wildcards for any text and none for one character, with classes of characters. -/
def starred : Rules := ⟨['*', '%'], [], none, true⟩

/-- What a statement says behind a pattern to name the escape character. -/
def clause (r : Rules) : String :=
  match r.escape with
  | some c => " ESCAPE '" ++ String.singleton c ++ "'"
  | none => ""

end Rules

end Like

/-- The rules by which the database of a dialect reads patterns. -/
def Builtin.likeRules : Builtin → Like.Rules
  | postgres | sqlite | db2 => .escaped
  | mssql | access => .bracketed
  | dataView => .starred

/-- The patterns of a dialect are read by these rules. -/
inductive Dialect.ReadsPatterns : Dialect → Like.Rules → Prop
  | builtin (b : Builtin) : ReadsPatterns b.dialect b.likeRules
  | standard (name : String) (quoting : Quoting) (rowLimit : RowLimit) (features : Features)
      (storageType : Column → Except Fault String) :
      ReadsPatterns (.standard name quoting rowLimit features storageType) .escaped

namespace Like

theorem escaped_shields :
    Rules.escaped.Shields fun c => if c = '\\' ∨ c = '%' ∨ c = '_' then ['\\', c] else [c] := by
  apply Rules.shields_of_escape rfl rfl (.inl rfl)
  intro c meant
  rcases List.mem_cons.mp meant with rfl | single
  · exact .inr (.inl rfl)
  · exact .inr (.inr (List.mem_singleton.mp single))

theorem bracketed_shields :
    Rules.bracketed.Shields fun c => if c ∈ ['%', '_', '['] then ['[', c, ']'] else [c] := by
  apply Rules.shields_of_classes rfl rfl (by simp)
  intro c meant
  exact List.mem_append_left ['['] meant

theorem starred_shields :
    Rules.starred.Shields
      fun c => if c ∈ ['*', '%', '[', ']'] then ['[', c, ']'] else [c] := by
  apply Rules.shields_of_classes rfl rfl (by simp)
  intro c meant
  exact List.mem_append_left ['[', ']'] meant

theorem parts_escapeBackslash (needle : String) (rest : List Char) :
    Rules.escaped.parts ((escapeBackslash needle).toList ++ rest) =
      (Rules.escaped.parts rest).map (needle.toList.map .char ++ ·) := by
  rw [escapeBackslash, String.toList_ofList]
  exact Rules.parts_escaped escaped_shields _ _

theorem parts_escapeBrackets {r : Rules} {specials : List Char}
    (shields : r.Shields fun c => if c ∈ specials then ['[', c, ']'] else [c]) (needle : String)
    (rest : List Char) :
    r.parts ((escapeBrackets specials needle).toList ++ rest) =
      (r.parts rest).map (needle.toList.map .char ++ ·) := by
  rw [escapeBrackets, String.toList_ofList]
  exact Rules.parts_escaped shields _ _

theorem toList_percent : "%".toList = ['%'] := rfl

end Like

namespace Dialect.ReadsPatterns

variable {d : Dialect} {r : Like.Rules} (reads : d.ReadsPatterns r)

include reads

/-- What a dialect escapes stands for itself under its rules. -/
theorem parts_escapeLike (needle : String) (rest : List Char) :
    r.parts ((d.escapeLike needle).toList ++ rest) =
      (r.parts rest).map (needle.toList.map .char ++ ·) := by
  cases reads with
  | standard => exact Like.parts_escapeBackslash needle rest
  | builtin b =>
    cases b with
    | postgres | sqlite | db2 => exact Like.parts_escapeBackslash needle rest
    | mssql | access => exact Like.parts_escapeBrackets Like.bracketed_shields needle rest
    | dataView => exact Like.parts_escapeBrackets Like.starred_shields needle rest

theorem parts_percent (rest : List Char) :
    r.parts ('%' :: rest) = (r.parts rest).map (.many :: ·) := by
  have wild : '%' ∈ r.many ∧ r.escape ≠ some '%' := by
    cases reads with
    | standard => exact ⟨List.mem_singleton.mpr rfl, by decide⟩
    | builtin b => cases b <;> exact ⟨by decide, by decide⟩
  have unbracketed : ¬(r.classes ∧ '%' = '[') := fun h => absurd h.2 (by decide)
  rw [Like.Rules.parts_meaning wild.2 unbracketed, Like.Rules.meaning_of_many wild.1]

theorem finds_beginning (needle text : String) :
    r.finds (d.escapeLike needle ++ "%") text ↔ needle.toList <+: text.toList := by
  have parts : r.parts (d.escapeLike needle ++ "%").toList =
      some (needle.toList.map .char ++ [.many]) := by
    rw [String.toList_append, reads.parts_escapeLike, Like.toList_percent, reads.parts_percent]
    rfl
  rw [Like.Rules.finds, parts, Option.any_some]
  exact Like.matchesParts_beginning

theorem finds_inside (needle text : String) :
    r.finds ("%" ++ d.escapeLike needle ++ "%") text ↔ needle.toList <:+: text.toList := by
  have parts : r.parts ("%" ++ d.escapeLike needle ++ "%").toList =
      some (.many :: (needle.toList.map .char ++ [.many])) := by
    rw [String.append_assoc, String.toList_append, String.toList_append, Like.toList_percent,
      List.singleton_append, reads.parts_percent, reads.parts_escapeLike, reads.parts_percent]
    rfl
  rw [Like.Rules.finds, parts, Option.any_some]
  exact Like.matchesParts_inside

/-- The statement names the escape character of the rules. -/
theorem likeEscapeClause_eq : d.likeEscapeClause = r.clause := by
  cases reads with
  | standard => rfl
  | builtin b => cases b <;> rfl

end Dialect.ReadsPatterns

namespace Text

theorem beginsWith_iff {needle s : String} :
    beginsWith needle s ↔ needle.toList <+: s.toList := List.isPrefixOf_iff_prefix

theorem occursIn_iff {needle cs : List Char} : occursIn needle cs ↔ needle <:+: cs := by
  induction cs with
  | nil => simp [occursIn]
  | cons c rest ih =>
    rw [occursIn, Bool.or_eq_true, List.isPrefixOf_iff_prefix, ih, List.infix_cons_iff]

theorem containsText_iff {needle s : String} :
    containsText needle s ↔ needle.toList <:+: s.toList := occursIn_iff

end Text

/-- The pattern that is written finds the texts of which the condition holds. -/
theorem Sql.LikePattern.finds_text {d : Dialect} {r : Like.Rules} (reads : d.ReadsPatterns r)
    (p : LikePattern) (text : String) : r.finds (p.text d) text = p.holds text := by
  apply Bool.eq_iff_iff.mpr
  cases p with
  | startsWith start => exact (reads.finds_beginning start text).trans Text.beginsWith_iff.symm
  | contains needle => exact (reads.finds_inside needle text).trans Text.containsText_iff.symm

/-- The pattern of a dialect for a beginning finds the texts that begin with it, and its pattern for
a part the texts that contain it. The escape character is the one that the statement names, and of a
text in a row the table says what the patterns say. -/
theorem Dialect.patterns_find {d : Dialect} {r : Like.Rules} (reads : d.ReadsPatterns r)
    (needle text : String) :
    (r.finds (d.escapeLike needle ++ "%") text ↔ needle.toList <+: text.toList) ∧
    (r.finds ("%" ++ d.escapeLike needle ++ "%") text ↔ needle.toList <:+: text.toList) ∧
    d.likeEscapeClause = r.clause ∧
    ∀ (t : Table) (row : Row) (e : Expr), t.eval row e = .ok (.string text) →
      t.test row (.startsWith e needle) =
        .ok (some (r.finds (d.escapeLike needle ++ "%") text)) ∧
      t.test row (.contains e needle) =
        .ok (some (r.finds ("%" ++ d.escapeLike needle ++ "%") text)) := by
  refine ⟨reads.finds_beginning needle text, reads.finds_inside needle text,
    reads.likeEscapeClause_eq, ?_⟩
  intro t row e evaluated
  have starts := Sql.LikePattern.finds_text reads (.startsWith needle) text
  have contains := Sql.LikePattern.finds_text reads (.contains needle) text
  simp only [Sql.LikePattern.text, Sql.LikePattern.holds] at starts contains
  constructor
  · rw [Table.test, evaluated, starts]
    rfl
  · rw [Table.test, evaluated, contains]
    rfl

/-- A text full of marks that is found inside a text, but does not begin it. -/
theorem Dialect.patterns_find_marks :
    Builtin.mssql.dialect.escapeLike "5%_[a]*\\" = "5[%][_][[]a]*\\" ∧
    Like.Rules.bracketed.finds "5[%][_][[]a]*\\%" "15%_[a]*\\" = false ∧
    Like.Rules.bracketed.finds "%5[%][_][[]a]*\\%" "15%_[a]*\\" = true ∧
    Table.test ⟨"Notes", [.of "Text" .string], []⟩ [.string "15%_[a]*\\"]
      (.contains (.column ⟨["Text"]⟩) "5%_[a]*\\") = .ok (some true) := by
  obtain ⟨beginning, inside, -, tested⟩ :=
    Dialect.patterns_find (.builtin .mssql) "5%_[a]*\\" "15%_[a]*\\"
  have found := inside.mpr (by decide)
  have evaluated : Table.eval ⟨"Notes", [.of "Text" .string], []⟩ [.string "15%_[a]*\\"]
      (.column ⟨["Text"]⟩) = .ok (.string "15%_[a]*\\") := by
    decide +kernel
  refine ⟨by decide, ?_, found, ?_⟩
  · exact Bool.eq_false_iff.mpr fun h => absurd (beginning.mp h) (by decide)
  · rw [(tested _ _ _ evaluated).2, found]

end SqlScribe

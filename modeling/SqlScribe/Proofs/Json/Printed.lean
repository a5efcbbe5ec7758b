import SqlScribe.Json.Reader
import SqlScribe.Proofs.Document.Verdict
import SqlScribe.Proofs.Json.Numbers
import SqlScribe.Proofs.Json.Strings

/-!
# Documents that are printed and read

A document is taken apart from its text as far as there is room for its levels, and passed over up
to its last character.
-/

namespace SqlScribe.Json

open Text

mutual

/-- Every number in the document is one that a text can hold. -/
def Writable : Json → Prop
  | integer n => -9223372036854775808 ≤ n ∧ n ≤ 18446744073709551615
  | real x => x.isFinite = true
  | array items => WritableItems items
  | object members => WritableMembers members
  | _ => True

def WritableItems : List Json → Prop
  | [] => True
  | doc :: rest => doc.Writable ∧ WritableItems rest

def WritableMembers : List (String × Json) → Prop
  | [] => True
  | (_, doc) :: rest => doc.Writable ∧ WritableMembers rest

end

mutual

/-- The floats in the document. -/
def reals : Json → List Binary64
  | real x => [x]
  | array items => realsOfItems items
  | object members => realsOfMembers members
  | _ => []

def realsOfItems : List Json → List Binary64
  | [] => []
  | doc :: rest => doc.reals ++ realsOfItems rest

def realsOfMembers : List (String × Json) → List Binary64
  | [] => []
  | (_, doc) :: rest => doc.reals ++ realsOfMembers rest

end

/-- A float is read back from what is written for it. -/
def ReadsBack (float : FloatOf) (x : Binary64) : Prop :=
  read float x.toDocumentText = .ok (.real x)

/-- A character that a document begins with. -/
def Begins (c : Char) : Prop := c.isDigit = true ∨ c ∈ ['n', 't', 'f', '"', '-', '[', '\x7b']

section Words

variable {float : FloatOf} {c : Char} {cs rest : List Char} {doc : Json} {fuel room : Nat}

theorem Begins.not_jsonBlank (begins : Begins c) : isJsonBlank c = false := by
  obtain digit | mark := begins
  · have plain := (isPlain_of_isDigit digit).1
    simp only [isJsonBlank, Bool.or_eq_false_iff, beq_eq_false_iff_ne]
    refine ⟨⟨⟨?_, ?_⟩, ?_⟩, ?_⟩ <;> rintro rfl <;> cases digit
  · simp only [List.mem_cons, List.not_mem_nil, or_false] at mark
    obtain rfl | rfl | rfl | rfl | rfl | rfl | rfl := mark <;> rfl

theorem Begins.skipBlanks_cons (begins : Begins c) (rest : List Char) :
    skipBlanks (c :: rest) = c :: rest :=
  List.dropWhile_cons_of_neg (by simp [begins.not_jsonBlank])

theorem Begins.ne_of (begins : Begins c) {other : Char}
    (outside : other.isDigit = false ∧ other ∉ ['n', 't', 'f', '"', '-', '[', '\x7b']) :
    c ≠ other := by
  rintro rfl
  obtain digit | mark := begins
  · rw [outside.1] at digit
    cases digit
  · exact outside.2 mark

theorem ne_of_isDigit (digit : c.isDigit = true) (other : Char) (outside : other.isDigit = false) :
    c ≠ other := by
  rintro rfl
  rw [outside] at digit
  cases digit

theorem readPlain_digit (digit : c.isDigit = true) (rest : List Char) :
    readPlain float (c :: rest) = readNumber float false (c :: rest) := by
  rw [readPlain, if_pos digit]
  all_goals exact ne_of_isDigit digit _ rfl

/-- A number or a word is taken apart as what it is read as. -/
theorem scan_plain (begins : Begins c) (plain : c ∉ ['"', '[', '\x7b', 'n']) (rest : List Char) :
    Source.scan float room (fuel + 1) (c :: rest) =
      match readPlain float (c :: rest) with
      | .ok (doc, _) => .ofJson doc
      | .error fault => .broken fault .expectedValue := by
  simp only [List.mem_cons, List.not_mem_nil, or_false, not_or] at plain
  obtain ⟨quote, list, object, word⟩ := plain
  unfold Source.scan
  rw [begins.skipBlanks_cons]
  split
  · contradiction
  · rename_i found
    exact absurd (List.cons.inj found).1 quote
  · rename_i found
    exact absurd (List.cons.inj found).1 list
  · rename_i found
    exact absurd (List.cons.inj found).1 object
  · rename_i found
    exact absurd (List.cons.inj found).1 word
  · rfl

theorem skipValue_digit (digit : c.isDigit = true) (rest : List Char) :
    skipValue (fuel + 1) (c :: rest) = skipNumber (c :: rest) := by
  have begins : Begins c := .inl digit
  have other {d : Char} {more : List Char} (mark : d.isDigit = false) : c :: rest ≠ d :: more :=
    fun found => ne_of_isDigit digit d mark (List.cons.inj found).1
  unfold skipValue
  rw [begins.skipBlanks_cons]
  split
  · exact absurd ‹_› (other rfl)
  · exact absurd ‹_› (other rfl)
  · exact absurd ‹_› (other rfl)
  · exact absurd ‹_› (other rfl)
  · rename_i found
    obtain ⟨rfl, rfl⟩ := List.cons.inj found
    rw [if_pos digit]
  · contradiction

end Words

section Scalars

variable {float : FloatOf} {rest : List Char} {fuel room : Nat}

/-- The digits of a number, behind its sign, are taken apart and passed over. -/
theorem scan_signed (negative : Bool) {body : List Char}
    (begins : ∃ c more, body = c :: more ∧ c.isDigit = true) :
    Source.scan float room (fuel + 1) ((if negative then '-' :: body else body) ++ rest) =
      match readNumber float negative (body ++ rest) with
      | .ok (doc, _) => .ofJson doc
      | .error fault => .broken fault .expectedValue := by
  obtain ⟨c, more, rfl, digit⟩ := begins
  cases negative with
  | true => exact scan_plain (.inr (by decide)) (by decide) _
  | false =>
    have read : readPlain float (c :: more ++ rest) = readNumber float false (c :: more ++ rest) :=
      readPlain_digit digit _
    rw [← read]
    apply scan_plain (.inl digit)
    simp [ne_of_isDigit digit '"' rfl, ne_of_isDigit digit '[' rfl,
      ne_of_isDigit digit '\x7b' rfl, ne_of_isDigit digit 'n' rfl]

theorem skipValue_signed (negative : Bool) {body : List Char}
    (begins : ∃ c more, body = c :: more ∧ c.isDigit = true)
    (skipped : skipNumber (body ++ rest) = .ok rest) :
    skipValue (fuel + 1) ((if negative then '-' :: body else body) ++ rest) = .ok rest := by
  obtain ⟨c, more, rfl, digit⟩ := begins
  cases negative with
  | true => exact skipped
  | false => exact (skipValue_digit digit _).trans skipped

theorem Denotes.begins {body : List Char} {d : Binary64.Decimals} (denotes : Denotes body d) :
    ∃ c more, body = c :: more ∧ c.isDigit = true := by
  obtain ⟨whole, fraction, exponent, rfl, ⟨something, digit, -⟩, -⟩ := denotes
  obtain ⟨c, more, rfl⟩ := List.exists_cons_of_ne_nil something
  exact ⟨c, _, rfl, digit c List.mem_cons_self⟩

/-- A whole number is read from its digits, as long as it fits. -/
theorem readNumber_digits {n : Int}
    (fits : -9223372036854775808 ≤ n ∧ n ≤ 18446744073709551615) (ends : EndsValue rest) :
    readNumber float (decide (n < 0)) (digits n.natAbs ++ rest) = .ok (.integer n, rest) := by
  have read := @readNumber_written float (decide (n < 0)) _ [] _ none (isWhole_digits n.natAbs)
    (by simp) ends
  have whole : wholeNumber? (decide (n < 0)) n.natAbs = some n := by
    by_cases negative : n < 0
    · have size : 0 < n.natAbs ∧ n.natAbs ≤ 9223372036854775808 := by omega
      have value : -(n.natAbs : Int) = n := by omega
      simp only [wholeNumber?, decide_eq_true negative, size.1, size.2, value, Bool.not_true,
        Bool.false_and, decide_true, Bool.and_self, Bool.false_eq_true, if_false, if_true]
    · have size : n.natAbs ≤ 18446744073709551615 := by omega
      have value : (n.natAbs : Int) = n := by omega
      simp only [wholeNumber?, decide_eq_false negative, size, value, Bool.not_false, decide_true,
        Bool.and_self, if_true]
  rw [ofDigits_digits, List.isEmpty_nil, Option.isNone_none, Bool.and_self, if_pos rfl, whole]
    at read
  exact read

theorem skipNumber_digits (n : Nat) (ends : EndsValue rest) :
    skipNumber (digits n ++ rest) = .ok rest :=
  @skipNumber_written _ [] _ none (isWhole_digits n) (by simp) ends

theorem toList_numeral (n : Int) :
    (numeral n).toList =
      if decide (n < 0) = true then '-' :: digits n.natAbs else digits n.natAbs := by
  rw [numeral, String.toList_ofList, signedDigits]
  simp only [decide_eq_true_eq]

end Scalars

section Texts

variable {rest : List Char}

/-- An escaped text is no shorter. -/
theorem length_le_escaped (cs : List Char) : cs.length ≤ (cs.flatMap escaped).length := by
  induction cs with
  | nil => exact Nat.zero_le _
  | cons c others ih =>
    have something : 0 < (escaped c).length := by
      obtain ⟨mark, printed, -⟩ | ⟨-, printed⟩ | ⟨printed, -⟩ := escaped_cases c
      all_goals
        rw [printed]
        exact Nat.succ_pos _
    rw [List.flatMap_cons, List.length_append, List.length_cons]
    omega

theorem toList_quote (s : String) (rest : List Char) :
    (quote s).toList ++ rest = '"' :: (s.toList.flatMap escaped ++ '"' :: rest) := by
  simp [quote]

theorem toList_array (items : List Json) (rest : List Char) :
    (array items).compact.toList ++ rest = '[' :: ((compactItems items).toList ++ ']' :: rest) := by
  simp [compact]

theorem toList_object (members : List (String × Json)) (rest : List Char) :
    (object members).compact.toList ++ rest =
      '\x7b' :: ((compactMembers members).toList ++ '\x7d' :: rest) := by
  simp [compact]

theorem toList_items (doc next : Json) (others : List Json) (rest : List Char) :
    (compactItems (doc :: next :: others)).toList ++ rest =
      doc.compact.toList ++ ',' :: ((compactItems (next :: others)).toList ++ rest) := by
  simp [compactItems]

theorem toList_member (name : String) (doc : Json) (rest : List Char) :
    (compactMembers [(name, doc)]).toList ++ rest =
      '"' :: (name.toList.flatMap escaped ++ '"' :: ':' :: (doc.compact.toList ++ rest)) := by
  simp [compactMembers, quote]

theorem toList_members (name : String) (doc : Json) (next : String × Json)
    (others : List (String × Json)) (rest : List Char) :
    (compactMembers ((name, doc) :: next :: others)).toList ++ rest =
      '"' :: (name.toList.flatMap escaped ++ '"' :: ':' :: (doc.compact.toList ++
        ',' :: ((compactMembers (next :: others)).toList ++ rest))) := by
  simp [compactMembers, quote]

theorem toList_integer (n : Int) : (integer n).compact.toList = (numeral n).toList := by
  simp only [compact]
  rfl

theorem toList_real {x : Binary64} (finite : x.isFinite = true) :
    (real x).compact.toList = x.toDocumentText.toList := by
  have printed : (real x).compact = if x.isFinite then x.toDocumentText else "null" := by
    simp only [compact]
    rfl
  rw [printed, if_pos finite]

theorem toList_string (s : String) : (string s).compact.toList = (quote s).toList := by
  simp only [compact]
  rfl

theorem exists_begins_signed (negative : Bool) {body : List Char}
    (begins : ∃ c more, body = c :: more ∧ c.isDigit = true) :
    ∃ c more, (if negative then '-' :: body else body) = c :: more ∧ Begins c := by
  obtain ⟨c, more, rfl, digit⟩ := begins
  cases negative with
  | true => exact ⟨'-', c :: more, rfl, .inr (by decide)⟩
  | false => exact ⟨c, more, rfl, .inl digit⟩

theorem exists_begins {doc : Json} (writable : doc.Writable) :
    ∃ c more, doc.compact.toList = c :: more ∧ Begins c := by
  cases doc with
  | null => exact ⟨'n', ['u', 'l', 'l'], by simp only [compact]; rfl, .inr (by decide)⟩
  | bool b =>
    cases b with
    | true => exact ⟨'t', ['r', 'u', 'e'], by simp only [compact]; rfl, .inr (by decide)⟩
    | false => exact ⟨'f', ['a', 'l', 's', 'e'], by simp only [compact]; rfl, .inr (by decide)⟩
  | integer n =>
    rw [toList_integer, toList_numeral]
    exact exists_begins_signed _ (exists_digits n.natAbs)
  | real x =>
    have finite : x.isFinite = true := by simpa only [Writable] using writable
    obtain ⟨body, d, written, denotes, -⟩ := exists_denotes finite
    rw [toList_real finite, written]
    exact exists_begins_signed _ denotes.begins
  | string s =>
    have printed := toList_quote s []
    rw [List.append_nil] at printed
    exact ⟨'"', _, (toList_string s).trans printed, .inr (by decide)⟩
  | array items =>
    have printed := toList_array items []
    rw [List.append_nil] at printed
    exact ⟨'[', _, printed, .inr (by decide)⟩
  | object members =>
    have printed := toList_object members []
    rw [List.append_nil] at printed
    exact ⟨'\x7b', _, printed, .inr (by decide)⟩

theorem length_pos {doc : Json} (writable : doc.Writable) : 0 < doc.compact.toList.length := by
  obtain ⟨c, more, printed, -⟩ := exists_begins writable
  rw [printed]
  exact Nat.succ_pos _

end Texts

section Passing

variable {fuel : Nat} {rest : List Char}

theorem endsValue_cons {c : Char} (mark : c = ',' ∨ c = ']' ∨ c = '\x7d') (rest : List Char) :
    EndsValue (c :: rest) := by
  rintro _ ⟨⟩
  exact mark

theorem exists_less {n : Nat} (enough : n < fuel) : ∃ less, fuel = less + 1 :=
  Nat.exists_eq_succ_of_ne_zero (by omega)

/-- What is printed for a list begins like its first item. -/
theorem exists_begins_items {doc : Json} (writable : doc.Writable) (others : List Json)
    (rest : List Char) :
    ∃ c more, (compactItems (doc :: others)).toList ++ rest = c :: more ∧ Begins c := by
  obtain ⟨c, more, printed, begins⟩ := exists_begins writable
  cases others with
  | nil => exact ⟨c, more ++ rest, by rw [compactItems, printed]; rfl, begins⟩
  | cons next later => exact ⟨c, _, by rw [toList_items, printed, List.cons_append], begins⟩

/-- What is printed for an object begins with a name. -/
theorem exists_name (m : String × Json) (others : List (String × Json)) (rest : List Char) :
    ∃ more, (compactMembers (m :: others)).toList ++ rest = '"' :: more := by
  cases others with
  | nil => exact ⟨_, toList_member m.1 m.2 rest⟩
  | cons next later => exact ⟨_, toList_members m.1 m.2 next later rest⟩

theorem skipValue_list {c : Char} (begins : Begins c) (more : List Char) :
    skipValue (fuel + 1) ('[' :: c :: more) = skipItems fuel (c :: more) := by
  have blanks : skipBlanks ('[' :: c :: more) = '[' :: c :: more := rfl
  have other : c ≠ ']' := begins.ne_of (by decide)
  rw [skipValue, blanks]
  simp only [begins.skipBlanks_cons]
  split
  · rename_i found
    exact absurd (List.cons.inj found).1 other
  · contradiction
  · rfl

theorem skipItems_last {cs : List Char} (skipped : skipValue fuel cs = .ok (']' :: rest)) :
    skipItems (fuel + 1) cs = .ok rest := by
  rw [skipItems, skipped]
  rfl

theorem skipItems_next {cs more : List Char} (skipped : skipValue fuel cs = .ok (',' :: more)) :
    skipItems (fuel + 1) cs = skipItems fuel more := by
  rw [skipItems, skipped]
  rfl

theorem skipName (name : String) (cs : List Char) :
    skipString ((name.toList.flatMap escaped ++ '"' :: ':' :: cs).length + 1)
      (name.toList.flatMap escaped ++ '"' :: ':' :: cs) = .ok (':' :: cs) := by
  apply skipString_quoted
  have width := length_le_escaped name.toList
  simp only [List.length_append, List.length_cons]
  omega

theorem skipMembers_last (name : String) {cs : List Char}
    (skipped : skipValue fuel cs = .ok ('\x7d' :: rest)) :
    skipMembers (fuel + 1) ('"' :: (name.toList.flatMap escaped ++ '"' :: ':' :: cs)) =
      .ok rest := by
  have blanks (more : List Char) : skipBlanks ('"' :: more) = '"' :: more := rfl
  have colon (more : List Char) : skipBlanks (':' :: more) = ':' :: more := rfl
  rw [skipMembers, blanks]
  simp only [skipName, bind, Except.bind, colon, skipped]
  rfl

theorem skipMembers_next (name : String) {cs more : List Char}
    (skipped : skipValue fuel cs = .ok (',' :: more)) :
    skipMembers (fuel + 1) ('"' :: (name.toList.flatMap escaped ++ '"' :: ':' :: cs)) =
      skipMembers fuel more := by
  have blanks (more : List Char) : skipBlanks ('"' :: more) = '"' :: more := rfl
  have colon (more : List Char) : skipBlanks (':' :: more) = ':' :: more := rfl
  rw [skipMembers, blanks]
  simp only [skipName, bind, Except.bind, colon, skipped]
  rfl

theorem skipMembers_first (more : List Char) :
    skipValue (fuel + 1) ('\x7b' :: '"' :: more) = skipMembers fuel ('"' :: more) := rfl

theorem exists_fuel_of_printed {doc : Json} (writable : doc.Writable)
    (enough : 2 * doc.compact.toList.length ≤ fuel) : ∃ less, fuel = less + 1 := by
  have something := length_pos writable
  exact @exists_less _ 0 (by omega)

/-- Words, numbers and strings are passed over. -/
theorem skipValue_scalar {doc : Json} (writable : doc.Writable)
    (noList : ∀ items, doc ≠ array items) (noObject : ∀ members, doc ≠ object members)
    (ends : EndsValue rest) :
    skipValue (fuel + 1) (doc.compact.toList ++ rest) = .ok rest := by
  cases doc with
  | null =>
    have printed : null.compact.toList = ['n', 'u', 'l', 'l'] := by simp only [compact]; rfl
    rw [printed]
    rfl
  | bool b =>
    cases b with
    | true =>
      have printed : (bool true).compact.toList = ['t', 'r', 'u', 'e'] := by
        simp only [compact]; rfl
      rw [printed]
      rfl
    | false =>
      have printed : (bool false).compact.toList = ['f', 'a', 'l', 's', 'e'] := by
        simp only [compact]; rfl
      rw [printed]
      rfl
  | integer n =>
    rw [toList_integer, toList_numeral]
    exact skipValue_signed _ (exists_digits n.natAbs) (skipNumber_digits n.natAbs ends)
  | real x =>
    have finite : x.isFinite = true := by simpa only [Writable] using writable
    obtain ⟨body, d, written, denotes, -⟩ := exists_denotes finite
    rw [toList_real finite, written]
    exact skipValue_signed _ denotes.begins (denotes.skipNumber_append ends)
  | string s =>
    rw [toList_string, toList_quote]
    apply skipString_quoted
    have width := length_le_escaped s.toList
    simp only [List.length_append, List.length_cons]
    omega
  | array items => exact absurd rfl (noList items)
  | object members => exact absurd rfl (noObject members)

/-- The document is passed over up to its last character. -/
def IsPassed (doc : Json) : Prop := ∀ {fuel : Nat} {rest : List Char},
  2 * doc.compact.toList.length ≤ fuel → EndsValue rest →
    skipValue fuel (doc.compact.toList ++ rest) = .ok rest

/-- The items of a list are passed over together with the bracket behind them. -/
def ArePassed (items : List Json) : Prop := ∀ {fuel : Nat} {rest : List Char},
  2 * (compactItems items).toList.length + 1 ≤ fuel →
    skipItems fuel ((compactItems items).toList ++ ']' :: rest) = .ok rest

/-- The members of an object are passed over together with the brace behind them. -/
def MembersPassed (members : List (String × Json)) : Prop := ∀ {fuel : Nat} {rest : List Char},
  2 * (compactMembers members).toList.length + 1 ≤ fuel →
    skipMembers fuel ((compactMembers members).toList ++ '\x7d' :: rest) = .ok rest

theorem isPassed_scalar {doc : Json} (writable : doc.Writable)
    (noList : ∀ items, doc ≠ array items) (noObject : ∀ members, doc ≠ object members) :
    doc.IsPassed := by
  intro fuel rest enough ends
  obtain ⟨fuel, rfl⟩ := exists_fuel_of_printed writable enough
  exact skipValue_scalar writable noList noObject ends

theorem isPassed_array {items : List Json} (writable : WritableItems items)
    (passed : items ≠ [] → ArePassed items) : (array items).IsPassed := by
  intro fuel rest enough _
  obtain ⟨fuel, rfl⟩ := @exists_fuel_of_printed _ (array items) writable enough
  have width := congrArg List.length (toList_array items [])
  simp only [List.append_nil, List.length_append, List.length_cons, List.length_nil] at width
  rw [toList_array]
  cases items with
  | nil => rfl
  | cons doc others =>
    obtain ⟨c, more, printed, begins⟩ := exists_begins_items writable.1 others (']' :: rest)
    rw [printed, skipValue_list begins, ← printed]
    exact passed nofun (by omega)

theorem isPassed_object {members : List (String × Json)} (writable : WritableMembers members)
    (passed : members ≠ [] → MembersPassed members) : (object members).IsPassed := by
  intro fuel rest enough _
  obtain ⟨fuel, rfl⟩ := @exists_fuel_of_printed _ (object members) writable enough
  have width := congrArg List.length (toList_object members [])
  simp only [List.append_nil, List.length_append, List.length_cons, List.length_nil] at width
  rw [toList_object]
  cases members with
  | nil => rfl
  | cons m others =>
    obtain ⟨more, printed⟩ := exists_name m others ('\x7d' :: rest)
    rw [printed, skipMembers_first, ← printed]
    exact passed nofun (by omega)

theorem arePassed_cons {doc : Json} {others : List Json} (writable : doc.Writable)
    (first : doc.IsPassed) (later : others ≠ [] → ArePassed others) :
    ArePassed (doc :: others) := by
  intro fuel rest enough
  obtain ⟨fuel, rfl⟩ := @exists_less fuel 0 (by omega)
  cases others with
  | nil =>
    rw [compactItems] at enough ⊢
    exact skipItems_last (first (by omega) (endsValue_cons (by simp) _))
  | cons next others =>
    have width := congrArg List.length (toList_items doc next others [])
    have something := length_pos writable
    simp only [List.append_nil, List.length_append, List.length_cons] at width
    rw [toList_items, skipItems_next (first (by omega) (endsValue_cons (by simp) _))]
    exact later nofun (by omega)

theorem membersPassed_cons {name : String} {doc : Json} {others : List (String × Json)}
    (first : doc.IsPassed) (later : others ≠ [] → MembersPassed others) :
    MembersPassed ((name, doc) :: others) := by
  intro fuel rest enough
  obtain ⟨fuel, rfl⟩ := @exists_less fuel 0 (by omega)
  cases others with
  | nil =>
    have width := congrArg List.length (toList_member name doc [])
    simp only [List.append_nil, List.length_append, List.length_cons] at width
    rw [toList_member]
    exact skipMembers_last name (first (by omega) (endsValue_cons (by simp) _))
  | cons next others =>
    have width := congrArg List.length (toList_members name doc next others [])
    simp only [List.append_nil, List.length_append, List.length_cons] at width
    rw [toList_members, skipMembers_next name (first (by omega) (endsValue_cons (by simp) _))]
    exact later nofun (by omega)

mutual

/-- A printed document is passed over. -/
theorem isPassed : (doc : Json) → doc.Writable → doc.IsPassed
  | .null, writable => isPassed_scalar writable nofun nofun
  | .bool _, writable => isPassed_scalar writable nofun nofun
  | .integer _, writable => isPassed_scalar writable nofun nofun
  | .real _, writable => isPassed_scalar writable nofun nofun
  | .string _, writable => isPassed_scalar writable nofun nofun
  | .array items, writable => isPassed_array writable (arePassed items writable)
  | .object members, writable => isPassed_object writable (membersPassed members writable)

theorem arePassed : (items : List Json) → WritableItems items → items ≠ [] → ArePassed items
  | [], _, something => absurd rfl something
  | doc :: others, writable, _ =>
    arePassed_cons writable.1 (isPassed doc writable.1) (arePassed others writable.2)

theorem membersPassed : (members : List (String × Json)) → WritableMembers members →
    members ≠ [] → MembersPassed members
  | [], _, something => absurd rfl something
  | (_, doc) :: others, writable, _ =>
    membersPassed_cons (isPassed doc writable.1) (membersPassed others writable.2)

end

end Passing

section Scanning

variable {float : FloatOf} {fuel room : Nat} {cs more rest : List Char}

theorem afterValue_compact {doc : Json} (writable : doc.Writable) (ends : EndsValue rest) :
    afterValue (doc.compact.toList ++ rest) = .ok rest := by
  apply isPassed doc writable _ ends
  rw [List.length_append]
  omega

/-- What is read as a whole is what its document says. -/
theorem content_of_readAs {ε α : Type} {ofFault : JsonFault → ε} {reader : Source → Except ε α}
    {s : String} {content : α} (read : readAs float ofFault reader s = .ok content) :
    reader (.ofText float s) = .ok content := by
  rw [readAs] at read
  cases found : reader (.ofText float s) with
  | error fault =>
    rw [found] at read
    cases read
  | ok _ =>
    cases passed : afterValue s.toList with
    | error fault =>
      rw [found, passed] at read
      cases read
    | ok rest =>
      simp only [found, passed, Except.mapError, bind, Except.bind] at read
      split at read
      · exact read
      · cases read

section Floats

variable {x : Binary64}

/-- The text of a float, taken apart on its own. -/
theorem ofText_signed {body : List Char}
    (written : x.toDocumentText.toList = if x.isNegative then '-' :: body else body)
    (begins : ∃ c more, body = c :: more ∧ c.isDigit = true) :
    Source.ofText float x.toDocumentText =
      match readNumber float x.isNegative body with
      | .ok (doc, _) => .ofJson doc
      | .error fault => .broken fault .expectedValue := by
  have scanned := @scan_signed float [] (2 * x.toDocumentText.length + 1) 127 x.isNegative _ begins
  rwa [List.append_nil, List.append_nil, ← written] at scanned

/-- A float that is read back from its own text is read from it wherever the text stands. -/
theorem ReadsBack.exists_read (back : ReadsBack float x) (finite : x.isFinite = true) :
    ∃ body, x.toDocumentText.toList = (if x.isNegative then '-' :: body else body) ∧
      (∃ c more, body = c :: more ∧ c.isDigit = true) ∧
      ∀ {rest}, EndsValue rest →
        readNumber float x.isNegative (body ++ rest) = .ok (.real x, rest) := by
  obtain ⟨body, d, written, denotes, -⟩ := exists_denotes finite
  obtain ⟨y, -, read⟩ := denotes.exists_read float x.isNegative
  have alone := @read [] nofun
  have content := content_of_readAs back
  rw [List.append_nil] at alone
  rw [ofText_signed written denotes.begins, alone] at content
  refine ⟨body, written, denotes.begins, fun ends => ?_⟩
  rw [read ends]
  by_cases small : y.isFinite = true
  · rw [if_pos small] at content ⊢
    cases content
    rfl
  · rw [if_neg small] at content
    cases content

/-- A reader that takes the float next to what is written reads every finite float back. -/
theorem readsBack_nearest (finite : x.isFinite = true) : ReadsBack nearest x := by
  obtain ⟨body, d, written, denotes, same⟩ := exists_denotes finite
  obtain ⟨y, exact, read⟩ := denotes.exists_read nearest x.isNegative
  have alone := @read [] nofun
  rw [List.append_nil, exact rfl, same, if_pos finite] at alone
  have passed := @afterValue_compact [] (.real x) finite nofun
  rw [List.append_nil, toList_real finite] at passed
  rw [ReadsBack, Json.read, readAs, ofText_signed written denotes.begins, alone, passed]
  rfl

end Floats

/-- Words, numbers and strings are taken apart as what they are. -/
theorem scan_scalar {doc : Json} (writable : doc.Writable)
    (floats : ∀ x ∈ doc.reals, ReadsBack float x) (noList : ∀ items, doc ≠ array items)
    (noObject : ∀ members, doc ≠ object members) (ends : EndsValue rest) :
    Source.scan float room (fuel + 1) (doc.compact.toList ++ rest) = doc.upTo room := by
  cases doc with
  | null =>
    have printed : null.compact.toList = ['n', 'u', 'l', 'l'] := by simp only [compact]; rfl
    rw [printed, upTo]
    rfl
  | bool b =>
    cases b with
    | true =>
      have printed : (bool true).compact.toList = ['t', 'r', 'u', 'e'] := by
        simp only [compact]; rfl
      rw [printed, upTo]
      exact scan_plain (.inr (by decide)) (by decide) _
    | false =>
      have printed : (bool false).compact.toList = ['f', 'a', 'l', 's', 'e'] := by
        simp only [compact]; rfl
      rw [printed, upTo]
      exact scan_plain (.inr (by decide)) (by decide) _
  | integer n =>
    rw [toList_integer, toList_numeral, upTo, scan_signed _ (exists_digits n.natAbs),
      readNumber_digits writable ends]
    rfl
  | real x =>
    have finite : x.isFinite = true := by simpa only [Writable] using writable
    obtain ⟨body, written, begins, read⟩ :=
      (floats x (by rw [reals]; exact List.mem_cons_self)).exists_read finite
    rw [toList_real finite, written, upTo, scan_signed _ begins, read ends]
    rfl
  | string s =>
    have blanks (more : List Char) : skipBlanks ('"' :: more) = '"' :: more := rfl
    have width := length_le_escaped s.toList
    have read := @readQuoted_quoted rest ((s.toList.flatMap escaped ++ '"' :: rest).length + 1) []
      s.toList
      (by simp only [List.length_append, List.length_cons]; omega)
    rw [toList_string, toList_quote, upTo, Source.scan, blanks]
    simp only [read, List.reverse_nil, List.nil_append, String.ofList_toList]
  | array items => exact absurd rfl (noList items)
  | object members => exact absurd rfl (noObject members)

theorem scan_list {c : Char} (begins : Begins c) (more : List Char) :
    Source.scan float (room + 1) (fuel + 1) ('[' :: c :: more) =
      .array (Source.scanItems float room fuel (c :: more)).1
        (Source.scanItems float room fuel (c :: more)).2 := by
  have blanks : skipBlanks ('[' :: c :: more) = '[' :: c :: more := rfl
  have other : c ≠ ']' := begins.ne_of (by decide)
  rw [Source.scan, blanks]
  simp only [begins.skipBlanks_cons]
  split
  · rename_i found
    exact absurd (List.cons.inj found).1 other
  · contradiction
  · rfl

theorem scan_object (more : List Char) :
    Source.scan float (room + 1) (fuel + 1) ('\x7b' :: '"' :: more) =
      .object (Source.scanMembers float room fuel more).1
        (Source.scanMembers float room fuel more).2 := rfl

theorem scanItems_last (after : afterValue cs = .ok (']' :: rest)) :
    Source.scanItems float room (fuel + 1) cs = ([Source.scan float room fuel cs], none) := by
  have blanks : skipBlanks (']' :: rest) = ']' :: rest := rfl
  rw [Source.scanItems, after]
  simp only [blanks]

theorem scanItems_next {c : Char} (begins : Begins c)
    (after : afterValue cs = .ok (',' :: c :: more)) :
    Source.scanItems float room (fuel + 1) cs =
      (Source.scan float room fuel cs :: (Source.scanItems float room fuel (c :: more)).1,
        (Source.scanItems float room fuel (c :: more)).2) := by
  have blanks : skipBlanks (',' :: c :: more) = ',' :: c :: more := rfl
  have other : c ≠ ']' := begins.ne_of (by decide)
  rw [Source.scanItems, after]
  simp only [blanks, begins.skipBlanks_cons]
  split
  · rename_i found
    exact absurd (List.cons.inj found).1 other
  · contradiction
  · rfl

theorem readName_printed (name : String) (cs : List Char) :
    readQuoted [] ((name.toList.flatMap escaped ++ '"' :: ':' :: cs).length + 1)
      (name.toList.flatMap escaped ++ '"' :: ':' :: cs) = .ok (name, ':' :: cs) := by
  have width := length_le_escaped name.toList
  have read := @readQuoted_quoted (':' :: cs)
    ((name.toList.flatMap escaped ++ '"' :: ':' :: cs).length + 1) [] name.toList
    (by simp only [List.length_append, List.length_cons]; omega)
  rwa [List.reverse_nil, List.nil_append, String.ofList_toList] at read

theorem scanMembers_last (name : String) (after : afterValue cs = .ok ('\x7d' :: rest)) :
    Source.scanMembers float room (fuel + 1) (name.toList.flatMap escaped ++ '"' :: ':' :: cs) =
      ([(name, Source.scan float room fuel cs, none)], none) := by
  have colon : skipBlanks (':' :: cs) = ':' :: cs := rfl
  have blanks : skipBlanks ('\x7d' :: rest) = '\x7d' :: rest := rfl
  rw [Source.scanMembers, readName_printed]
  simp only [colon, after, blanks]

theorem scanMembers_next (name : String) (after : afterValue cs = .ok (',' :: '"' :: more)) :
    Source.scanMembers float room (fuel + 1) (name.toList.flatMap escaped ++ '"' :: ':' :: cs) =
      ((name, Source.scan float room fuel cs, none) :: (Source.scanMembers float room fuel more).1,
        (Source.scanMembers float room fuel more).2) := by
  have colon : skipBlanks (':' :: cs) = ':' :: cs := rfl
  have comma : skipBlanks (',' :: '"' :: more) = ',' :: '"' :: more := rfl
  have blanks : skipBlanks ('"' :: more) = '"' :: more := rfl
  rw [Source.scanMembers, readName_printed]
  simp only [colon, after, comma, blanks]

/-- The document is taken apart as far as there is room. -/
def IsScanned (float : FloatOf) (doc : Json) : Prop := ∀ {room fuel : Nat} {rest : List Char},
  2 * doc.compact.toList.length ≤ fuel → EndsValue rest →
    Source.scan float room fuel (doc.compact.toList ++ rest) = doc.upTo room

/-- The items of a list are taken apart as far as there is room. -/
def AreScanned (float : FloatOf) (items : List Json) : Prop :=
  ∀ {room fuel : Nat} {rest : List Char},
    2 * (compactItems items).toList.length + 1 ≤ fuel →
      Source.scanItems float room fuel ((compactItems items).toList ++ ']' :: rest) =
        (itemsUpTo items room, none)

/-- The members of an object are taken apart as far as there is room, from inside the first name
on. -/
def MembersScanned (float : FloatOf) (members : List (String × Json)) : Prop :=
  ∀ {room fuel : Nat} {rest more : List Char},
    2 * (compactMembers members).toList.length + 1 ≤ fuel →
      (compactMembers members).toList ++ '\x7d' :: rest = '"' :: more →
        Source.scanMembers float room fuel more = (membersUpTo members room, none)

theorem isScanned_scalar {doc : Json} (writable : doc.Writable)
    (floats : ∀ x ∈ doc.reals, ReadsBack float x) (noList : ∀ items, doc ≠ array items)
    (noObject : ∀ members, doc ≠ object members) :
    IsScanned float doc := by
  intro room fuel rest enough ends
  obtain ⟨fuel, rfl⟩ := exists_fuel_of_printed writable enough
  exact scan_scalar writable floats noList noObject ends

theorem isScanned_array {items : List Json} (writable : WritableItems items)
    (scanned : items ≠ [] → AreScanned float items) : IsScanned float (array items) := by
  intro room fuel rest enough _
  obtain ⟨fuel, rfl⟩ := @exists_fuel_of_printed _ (array items) writable enough
  have width := congrArg List.length (toList_array items [])
  simp only [List.append_nil, List.length_append, List.length_cons, List.length_nil] at width
  rw [toList_array]
  cases room with
  | zero => rfl
  | succ room =>
    cases items with
    | nil => rfl
    | cons doc others =>
      obtain ⟨c, more, printed, begins⟩ := exists_begins_items writable.1 others (']' :: rest)
      rw [printed, scan_list begins, ← printed, scanned nofun (by omega), upTo]

theorem isScanned_object {members : List (String × Json)} (writable : WritableMembers members)
    (scanned : members ≠ [] → MembersScanned float members) : IsScanned float (object members) := by
  intro room fuel rest enough _
  obtain ⟨fuel, rfl⟩ := @exists_fuel_of_printed _ (object members) writable enough
  have width := congrArg List.length (toList_object members [])
  simp only [List.append_nil, List.length_append, List.length_cons, List.length_nil] at width
  rw [toList_object]
  cases room with
  | zero => rfl
  | succ room =>
    cases members with
    | nil => rfl
    | cons m others =>
      obtain ⟨more, printed⟩ := exists_name m others ('\x7d' :: rest)
      rw [printed, scan_object, scanned nofun (by omega) printed, upTo]

theorem areScanned_cons {doc : Json} {others : List Json} (writable : WritableItems (doc :: others))
    (first : IsScanned float doc) (later : others ≠ [] → AreScanned float others) :
    AreScanned float (doc :: others) := by
  intro room fuel rest enough
  obtain ⟨fuel, rfl⟩ := @exists_less fuel 0 (by omega)
  cases others with
  | nil =>
    rw [compactItems] at enough ⊢
    have ends : EndsValue (']' :: rest) := endsValue_cons (by simp) _
    rw [scanItems_last (afterValue_compact writable.1 ends), first (by omega) ends, itemsUpTo,
      itemsUpTo]
  | cons next others =>
    have width := congrArg List.length (toList_items doc next others [])
    simp only [List.append_nil, List.length_append, List.length_cons] at width
    obtain ⟨c, more, printed, begins⟩ := exists_begins_items writable.2.1 others (']' :: rest)
    have ends : EndsValue (',' :: c :: more) := endsValue_cons (by simp) _
    rw [toList_items, printed, scanItems_next begins (afterValue_compact writable.1 ends),
      first (by omega) ends, ← printed, later nofun (by omega)]
    rfl

theorem membersScanned_cons {name : String} {doc : Json} {others : List (String × Json)}
    (writable : doc.Writable) (first : IsScanned float doc)
    (later : others ≠ [] → MembersScanned float others) :
    MembersScanned float ((name, doc) :: others) := by
  intro room fuel rest more enough printed
  obtain ⟨fuel, rfl⟩ := @exists_less fuel 0 (by omega)
  cases others with
  | nil =>
    have width := congrArg List.length (toList_member name doc [])
    simp only [List.append_nil, List.length_append, List.length_cons] at width
    have ends : EndsValue ('\x7d' :: rest) := endsValue_cons (by simp) _
    obtain rfl := (List.cons.inj ((toList_member name doc _).symm.trans printed)).2
    rw [scanMembers_last name (afterValue_compact writable ends), first (by omega) ends,
      membersUpTo, membersUpTo]
  | cons next others =>
    have width := congrArg List.length (toList_members name doc next others [])
    simp only [List.append_nil, List.length_append, List.length_cons] at width
    obtain rfl := (List.cons.inj ((toList_members name doc next others _).symm.trans printed)).2
    obtain ⟨more, named⟩ := exists_name next others ('\x7d' :: rest)
    have ends : EndsValue (',' :: '"' :: more) := endsValue_cons (by simp) _
    rw [named, scanMembers_next name (afterValue_compact writable ends), first (by omega) ends,
      later nofun (by omega) named]
    rfl

mutual

/-- A printed document is taken apart as far as there is room. -/
theorem isScanned : (doc : Json) → doc.Writable → (∀ x ∈ doc.reals, ReadsBack float x) →
    IsScanned float doc
  | .null, writable, floats => isScanned_scalar writable floats nofun nofun
  | .bool _, writable, floats => isScanned_scalar writable floats nofun nofun
  | .integer _, writable, floats => isScanned_scalar writable floats nofun nofun
  | .real _, writable, floats => isScanned_scalar writable floats nofun nofun
  | .string _, writable, floats => isScanned_scalar writable floats nofun nofun
  | .array items, writable, floats => isScanned_array writable (areScanned items writable floats)
  | .object members, writable, floats =>
    isScanned_object writable (membersScanned members writable floats)

theorem areScanned : (items : List Json) → WritableItems items →
    (∀ x ∈ realsOfItems items, ReadsBack float x) → items ≠ [] → AreScanned float items
  | [], _, _, something => absurd rfl something
  | doc :: others, writable, floats, _ =>
    have each := List.forall_mem_append.mp floats
    areScanned_cons writable (isScanned doc writable.1 each.1) (areScanned others writable.2 each.2)

theorem membersScanned : (members : List (String × Json)) → WritableMembers members →
    (∀ x ∈ realsOfMembers members, ReadsBack float x) → members ≠ [] →
    MembersScanned float members
  | [], _, _, something => absurd rfl something
  | (_, doc) :: others, writable, floats, _ =>
    have each := List.forall_mem_append.mp floats
    membersScanned_cons writable.1 (isScanned doc writable.1 each.1)
      (membersScanned others writable.2 each.2)

end

/-- The printed document is read as what it is, down to the levels that a text may have. -/
theorem ofText_compact {doc : Json} (writable : doc.Writable)
    (floats : ∀ x ∈ doc.reals, ReadsBack float x) :
    Source.ofText float doc.compact = doc.upTo 127 := by
  have fuel : 2 * doc.compact.toList.length ≤ 2 * doc.compact.length + 2 := by
    rw [String.length_toList]
    omega
  have scanned :=
    @isScanned float doc writable floats 127 (2 * doc.compact.length + 2) [] fuel nofun
  rwa [List.append_nil] at scanned

/-- Nothing follows the printed document. -/
theorem readAs_compact {ε α : Type} (ofFault : JsonFault → ε) (reader : Source → Except ε α)
    {doc : Json} (writable : doc.Writable) (floats : ∀ x ∈ doc.reals, ReadsBack float x) :
    readAs float ofFault reader doc.compact = reader (doc.upTo 127) := by
  have after := @afterValue_compact [] doc writable nofun
  rw [List.append_nil] at after
  rw [readAs, ofText_compact writable floats, after]
  cases reader (doc.upTo 127) <;> rfl

end Scanning

end SqlScribe.Json

import Mathlib.Data.List.TakeWhile
import SqlScribe.Dialect
import SqlScribe.Literal.Reader
import SqlScribe.Proofs.Number.Reading

/-!
# Forms of literals

Each form in which a value is written is read as what it stands for. The forms are tried in order,
so for each of them the earlier ones must fail on it.
-/

namespace SqlScribe.Literal

open SqlScribe.Text

/-- Between its quotes a text is written with every quote doubled. -/
def quoteDoubled (cs : List Char) : List Char :=
  cs.flatMap fun c => if c = '\x27' then ['\x27', '\x27'] else [c]

theorem toList_quotedText (s : String) :
    (Dialect.quotedText s).toList = '\x27' :: (quoteDoubled s.toList ++ ['\x27']) := by
  simp [Dialect.quotedText, doubled, quoteDoubled]

theorem quoteDoubled_of_plain {cs : List Char} (plain : ∀ c ∈ cs, c ≠ '\x27') :
    quoteDoubled cs = cs := by
  have single : quoteDoubled cs = cs.flatMap fun c => [c] := by
    apply List.flatMap_congr
    intro c member
    rw [if_neg (plain c member)]
  rw [single, List.flatMap_singleton']

/-- The first quote that is not doubled ends the text. -/
theorem readQuotedRest_doubled (cs : List Char) {rest : List Char}
    (ends : ∀ more, rest ≠ '\x27' :: more) :
    readQuotedRest (quoteDoubled cs ++ '\x27' :: rest) = some (cs, rest) := by
  induction cs with
  | nil =>
    rw [quoteDoubled, List.flatMap_nil, List.nil_append, readQuotedRest]
    intro more closing
    exact ends more closing
  | cons c cs ih =>
    by_cases quote : c = '\x27'
    · subst quote
      simp only [quoteDoubled, List.flatMap_cons, if_true, List.cons_append, List.nil_append,
        readQuotedRest] at ih ⊢
      rw [ih]
      rfl
    · simp only [quoteDoubled, List.flatMap_cons, if_neg quote, List.cons_append, List.nil_append]
        at ih ⊢
      rw [readQuotedRest]
      · rw [ih]
        rfl
      · intro _ same
        exact absurd same quote
      · exact quote

theorem readQuoted_doubled (cs : List Char) {rest : List Char}
    (ends : ∀ more, rest ≠ '\x27' :: more) :
    readQuoted ('\x27' :: (quoteDoubled cs ++ '\x27' :: rest)) = some (cs, rest) :=
  readQuotedRest_doubled cs ends

theorem readQuoted_plain {cs rest : List Char} (plain : ∀ c ∈ cs, c ≠ '\x27')
    (ends : ∀ more, rest ≠ '\x27' :: more) :
    readQuoted ('\x27' :: (cs ++ '\x27' :: rest)) = some (cs, rest) := by
  have read := readQuoted_doubled cs ends
  rwa [quoteDoubled_of_plain plain] at read

/-- A character from the hyphen to the digit nine: those of numbers are. -/
def IsNumeric (c : Char) : Prop := 45 ≤ c.toNat ∧ c.toNat ≤ 57

theorem IsNumeric.isPlain {c : Char} (h : IsNumeric c) : IsPlain c :=
  ⟨h.1, Nat.le_trans h.2 (by decide)⟩

theorem isNumeric_of_isDigit {c : Char} (h : c.isDigit = true) : IsNumeric c := by
  simp only [Char.isDigit, Bool.and_eq_true, decide_eq_true_eq, ge_iff_le, UInt32.le_iff_toNat_le]
    at h
  exact ⟨Nat.le_trans (by decide) h.1, h.2⟩

/-- What begins with a mark or a digit begins with no word. -/
theorem readWord_of_mark {c : Char} (mark : c.toNat ≤ 57) {w : Char} (letter : 58 ≤ w.toLower.toNat)
    (word cs : List Char) : readWord (w :: word) (c :: cs) = none := by
  have small : ¬ (c.val ≥ 'A'.val ∧ c.val ≤ 'Z'.val) := by
    rintro ⟨above, -⟩
    have larger : 65 ≤ c.toNat := UInt32.le_iff_toNat_le.mp above
    omega
  have same : c.toLower = c := dif_neg small
  have other : c.toLower ≠ w.toLower := by
    intro equal
    rw [← equal, same] at letter
    omega
  rw [readWord, if_neg other]

/-- The forms that may begin with a mark or a digit. -/
def markedForms : List (List Char → Option (Literal × List Char)) :=
  [fun cs => (readPlainHex cs).map fun (ds, rest) => (hex ds, rest),
    fun cs => (readByteString cs).map fun (ds, rest) => (hex ds, rest),
    fun cs => (readQuoted cs).map fun (s, rest) => (text s, rest),
    fun cs => (readHashed cs).map fun (s, rest) => (text s, rest),
    fun cs => (readNumber cs).map fun (ds, rest) => (number ds, rest)]

theorem read?_of_mark {c : Char} (mark : c.toNat ≤ 57) (cs : List Char) :
    read? (c :: cs) = markedForms.findSome? (· (c :: cs)) := by
  have no_word {w : Char} (letter : 58 ≤ w.toLower.toNat) (word : List Char) :
      readWord (w :: word) (c :: cs) = none := readWord_of_mark mark letter word cs
  have null : readWord "NULL".toList (c :: cs) = none := no_word (by decide) _
  have yes : readWord "TRUE".toList (c :: cs) = none := no_word (by decide) _
  have no : readWord "FALSE".toList (c :: cs) = none := no_word (by decide) _
  have typed_null : readTypedNull (c :: cs) = none := by
    have word : readWord "CAST".toList (c :: cs) = none := no_word (by decide) _
    simp only [readTypedNull, word]
    rfl
  have date_call : readDateCall (c :: cs) = none := by
    have moment : readWord "TO_TIMESTAMP".toList (c :: cs) = none := no_word (by decide) _
    have day : readWord "TO_DATE".toList (c :: cs) = none := no_word (by decide) _
    simp only [readDateCall, moment, day]
    rfl
  have blob_call : readBlobCall (c :: cs) = none := by
    have word : readWord "BLOB".toList (c :: cs) = none := no_word (by decide) _
    simp only [readBlobCall, word]
    rfl
  have quoted_hex : readQuotedHex (c :: cs) = none := by
    have word : readWord "X".toList (c :: cs) = none := no_word (by decide) _
    simp only [readQuotedHex, word]
    rfl
  have text : readText (c :: cs) = readQuoted (c :: cs) := by
    have word : readWord "N".toList (c :: cs) = none := no_word (by decide) _
    simp only [readText, word]
    rfl
  simp only [read?, forms, markedForms, List.findSome?_cons, null, yes, no, typed_null, date_call,
    blob_call, quoted_hex, text, Option.map_none]

/-- The first form that fits wins. -/
theorem read?_of_form (i : Nat) (bound : i < forms.length) {cs : List Char}
    {r : Literal × List Char} (reached : read? cs = (forms.drop i).findSome? (· cs))
    (fits : forms[i] cs = some r) : read? cs = some r := by
  rw [reached, List.drop_eq_getElem_cons bound, List.findSome?_cons, fits]

/-- A text between quotes with nothing behind it. -/
theorem read?_quotedText (s : String) :
    read? (Dialect.quotedText s).toList = some (text s.toList, []) := by
  have quoted : readQuoted ('\x27' :: (quoteDoubled s.toList ++ ['\x27'])) = some (s.toList, []) :=
    readQuoted_doubled s.toList (fun _ closing => nomatch closing)
  have no_hex : readPlainHex ('\x27' :: (quoteDoubled s.toList ++ ['\x27'])) = none := rfl
  have no_bytes : readByteString ('\x27' :: (quoteDoubled s.toList ++ ['\x27'])) = none := by
    simp only [readByteString, quoted]
    rfl
  rw [toList_quotedText, read?_of_mark (by decide)]
  simp only [markedForms, List.findSome?_cons, no_hex, no_bytes, quoted, Option.map_none,
    Option.map_some]

/-- A text with the mark of national characters. -/
theorem read?_nationalText (s : String) :
    read? ("N" ++ Dialect.quotedText s).toList = some (text s.toList, []) := by
  have written : ("N" ++ Dialect.quotedText s).toList =
      'N' :: '\x27' :: (quoteDoubled s.toList ++ ['\x27']) := by
    rw [String.toList_append, toList_quotedText]
    rfl
  have quoted : readQuoted ('\x27' :: (quoteDoubled s.toList ++ ['\x27'])) = some (s.toList, []) :=
    readQuoted_doubled s.toList (fun _ closing => nomatch closing)
  have fits : (readText ('N' :: '\x27' :: (quoteDoubled s.toList ++ ['\x27']))).map
      (fun (s, rest) => (text s, rest)) = some (text s.toList, []) :=
    congrArg (Option.map fun (s, rest) => (text s, rest)) quoted
  rw [written]
  exact read?_of_form 9 (by decide) rfl fits

/-- Digits between quotes behind an X. -/
theorem read?_quotedHex {ds : List Char} (plain : ∀ c ∈ ds, c ≠ '\x27') :
    read? ('X' :: '\x27' :: (ds ++ ['\x27'])) = some (hex ds, []) := by
  have quoted : readQuoted ('\x27' :: (ds ++ ['\x27'])) = some (ds, []) :=
    readQuoted_plain plain (fun _ closing => nomatch closing)
  have fits : (readQuotedHex ('X' :: '\x27' :: (ds ++ ['\x27']))).map
      (fun (ds, rest) => (hex ds, rest)) = some (hex ds, []) :=
    congrArg (Option.map fun (ds, rest) => (hex ds, rest)) quoted
  exact read?_of_form 7 (by decide) rfl fits

/-- Digits in the call that makes a blob of them. -/
theorem read?_blobCall {ds : List Char} (plain : ∀ c ∈ ds, c ≠ '\x27') :
    read? ("BLOB(X".toList ++ '\x27' :: (ds ++ ['\x27', ')'])) = some (hex ds, []) := by
  have quoted : readQuoted ('\x27' :: (ds ++ ['\x27', ')'])) = some (ds, [')']) :=
    readQuoted_plain plain (fun _ closing => nomatch closing)
  have call : readBlobCall ("BLOB(X".toList ++ '\x27' :: (ds ++ ['\x27', ')'])) =
      (readQuoted ('\x27' :: (ds ++ ['\x27', ')']))).bind fun (digits, rest) =>
        (readChar ')' (skipSpaces rest)).bind fun rest => some (digits, rest) := rfl
  have fits : (readBlobCall ("BLOB(X".toList ++ '\x27' :: (ds ++ ['\x27', ')']))).map
      (fun (ds, rest) => (hex ds, rest)) = some (hex ds, []) := by
    rw [call, quoted]
    rfl
  exact read?_of_form 5 (by decide) rfl fits

/-- Digits behind a zero and an x. -/
theorem read?_plainHex {ds : List Char} (digits : ∀ c ∈ ds, isHexDigit c = true) :
    read? ('0' :: 'x' :: ds) = some (hex ds, []) := by
  have taken : ds.takeWhile isHexDigit = ds := List.takeWhile_eq_self_iff.mpr digits
  have left : ds.dropWhile isHexDigit = [] := List.dropWhile_eq_nil_iff.mpr digits
  have fits : (readPlainHex ('0' :: 'x' :: ds)).map (fun (ds, rest) => (hex ds, rest)) =
      some (hex ds, []) := by
    change some (hex (ds.takeWhile isHexDigit), ds.dropWhile isHexDigit) = _
    rw [taken, left]
  exact read?_of_form 6 (by decide) rfl fits

/-- Digits in a text that is cast to a byte string. -/
theorem read?_byteString {ds : List Char} (plain : ∀ c ∈ ds, c ≠ '\x27') :
    read? ('\x27' :: '\\' :: 'x' :: (ds ++ '\x27' :: "::bytea".toList)) = some (hex ds, []) := by
  have unquoted : ∀ c ∈ '\\' :: 'x' :: ds, c ≠ '\x27' := by
    simp only [List.forall_mem_cons]
    exact ⟨by decide, by decide, plain⟩
  have quoted : readQuoted ('\x27' :: ('\\' :: 'x' :: ds ++ '\x27' :: "::bytea".toList)) =
      some ('\\' :: 'x' :: ds, "::bytea".toList) :=
    readQuoted_plain unquoted (fun _ closing => nomatch closing)
  have fits : (readByteString ('\x27' :: '\\' :: 'x' :: (ds ++ '\x27' :: "::bytea".toList))).map
      (fun (ds, rest) => (hex ds, rest)) = some (hex ds, []) := by
    rw [List.cons_append, List.cons_append] at quoted
    simp only [readByteString, quoted]
    rfl
  exact read?_of_form 8 (by decide) rfl fits

/-- A text between hash marks. -/
theorem read?_hashed {cs : List Char} (something : cs ≠ []) (plain : ∀ c ∈ cs, c ≠ '#') :
    read? ('#' :: (cs ++ ['#'])) = some (text cs, []) := by
  have inside : ∀ c ∈ cs, decide (c ≠ '#') = true :=
    fun c member => decide_eq_true (plain c member)
  have content : (cs ++ ['#']).takeWhile (· ≠ '#') = cs := by
    rw [List.takeWhile_append_of_pos inside]
    exact List.append_nil cs
  have after : (cs ++ ['#']).dropWhile (· ≠ '#') = ['#'] := by
    rw [List.dropWhile_append_of_pos inside]
    rfl
  have hashed : readHashed ('#' :: (cs ++ ['#'])) = some (cs, []) := by
    have some_left : cs.isEmpty = false := List.isEmpty_eq_false_iff.mpr something
    have opened (rest : List Char) : readHashed ('#' :: rest) =
        (readChar '#' (rest.dropWhile (· ≠ '#'))).bind fun after =>
          if (rest.takeWhile (· ≠ '#')).isEmpty then none
          else some (rest.takeWhile (· ≠ '#'), after) := rfl
    rw [opened, content, after, some_left]
    rfl
  have no_hex : readPlainHex ('#' :: (cs ++ ['#'])) = none := rfl
  have no_quote : readQuoted ('#' :: (cs ++ ['#'])) = none := rfl
  have no_bytes : readByteString ('#' :: (cs ++ ['#'])) = none := rfl
  rw [read?_of_mark (by decide)]
  simp only [markedForms, List.findSome?_cons, no_hex, no_quote, no_bytes, hashed, Option.map_none,
    Option.map_some]

/-- A text in one of the calls that make a date of it; their format is passed over. -/
theorem read?_dateCall {call cs format : List Char}
    (known : call = "TO_DATE".toList ∨ call = "TO_TIMESTAMP".toList)
    (plain : ∀ c ∈ cs, c ≠ '\x27') (formatPlain : ∀ c ∈ format, c ≠ '\x27') :
    read? (call ++ '(' :: '\x27' :: (cs ++ '\x27' :: ',' :: ' ' :: '\x27' ::
      (format ++ ['\x27', ')']))) = some (text cs, []) := by
  have content : readQuoted ('\x27' :: (cs ++ '\x27' :: ',' :: ' ' :: '\x27' ::
      (format ++ ['\x27', ')']))) = some (cs, ',' :: ' ' :: '\x27' :: (format ++ ['\x27', ')'])) :=
    readQuoted_plain plain nofun
  have passed : readQuoted ('\x27' :: (format ++ ['\x27', ')'])) = some (format, [')']) :=
    readQuoted_plain formatPlain nofun
  have opened (rest : List Char) : readDateCall (call ++ '(' :: '\x27' :: rest) =
      (readQuoted ('\x27' :: rest)).bind fun (content, rest) =>
        (readChar ',' (skipSpaces rest)).bind fun rest =>
          (readQuoted (skipSpaces rest)).bind fun (_, rest) =>
            (readChar ')' (skipSpaces rest)).bind fun rest => some (content, rest) := by
    obtain rfl | rfl := known <;> rfl
  have fits : (readDateCall (call ++ '(' :: '\x27' :: (cs ++ '\x27' :: ',' :: ' ' :: '\x27' ::
      (format ++ ['\x27', ')'])))).map (fun (s, rest) => (text s, rest)) = some (text cs, []) := by
    have behind : skipSpaces (' ' :: '\x27' :: (format ++ ['\x27', ')'])) =
        '\x27' :: (format ++ ['\x27', ')']) := rfl
    have comma : readChar ',' (skipSpaces (',' :: ' ' :: '\x27' :: (format ++ ['\x27', ')']))) =
        some (' ' :: '\x27' :: (format ++ ['\x27', ')'])) := rfl
    rw [opened, content]
    simp only [Option.bind_some, comma, behind, passed]
    rfl
  obtain rfl | rfl := known
  · exact read?_of_form 4 (by decide) rfl fits
  · exact read?_of_form 4 (by decide) rfl fits

/-- Digits are taken off up to the first other character. -/
theorem readDigits_append {ds rest : List Char} (something : ds ≠ [])
    (digit : ∀ c ∈ ds, c.isDigit = true) (ends : ∀ c, rest.head? = some c → c.isDigit = false) :
    readDigits (ds ++ rest) = some (ds, rest) := by
  have starts : ((ds ++ rest).head?.map Char.isDigit).getD false = true := by
    cases ds with
    | nil => exact absurd rfl something
    | cons c more => exact digit c List.mem_cons_self
  have stop : rest.takeWhile Char.isDigit = [] ∧ rest.dropWhile Char.isDigit = rest := by
    cases rest with
    | nil => exact ⟨rfl, rfl⟩
    | cons c more => simp [ends c rfl]
  rw [readDigits, if_pos starts, List.takeWhile_append_of_pos digit,
    List.dropWhile_append_of_pos digit, stop.1, stop.2, List.append_nil]

/-- What may stand behind the whole digits of a number: nothing, or a point and further digits. -/
def IsPlaces (cs : List Char) : Prop :=
  cs = [] ∨ ∃ ds, ds ≠ [] ∧ (∀ c ∈ ds, c.isDigit = true) ∧ cs = '.' :: ds

theorem IsPlaces.isNumeric {cs : List Char} (places : IsPlaces cs) : ∀ c ∈ cs, IsNumeric c := by
  obtain rfl | ⟨ds, -, digit, rfl⟩ := places
  · exact fun _ member => nomatch member
  · rw [List.forall_mem_cons]
    exact ⟨⟨by decide, by decide⟩, fun c member => isNumeric_of_isDigit (digit c member)⟩

/-- Nothing but marks and digits stands in a number. -/
theorem isNumeric_written (negative : Bool) (whole : List Char) {places : List Char}
    (digit : ∀ c ∈ whole, c.isDigit = true) (isPlaces : IsPlaces places) :
    ∀ c ∈ (if negative then ['-'] else []) ++ (whole ++ places), IsNumeric c := by
  simp only [List.forall_mem_append]
  refine ⟨?_, fun c member => isNumeric_of_isDigit (digit c member), isPlaces.isNumeric⟩
  cases negative <;> simp [IsNumeric]

theorem readFraction_of_isPlaces {cs : List Char} (places : IsPlaces cs) :
    readFraction cs = (cs, []) := by
  obtain rfl | ⟨ds, something, digit, rfl⟩ := places
  · rfl
  · have read : readDigits (ds ++ []) = some (ds, []) :=
      readDigits_append something digit (fun _ first => nomatch first)
    rw [List.append_nil] at read
    have point : (readChar '.' ('.' :: ds)).bind readDigits = some (ds, []) := read
    rw [readFraction, point]

theorem splitMinus_signed (negative : Bool) {c : Char} (digit : c.isDigit = true)
    (rest : List Char) :
    splitMinus ((if negative then ['-'] else []) ++ c :: rest) =
      (if negative then ['-'] else [], c :: rest) := by
  cases negative with
  | true => rfl
  | false =>
    have other : c ≠ '-' := by
      rintro rfl
      cases digit
    simp [splitMinus, readChar, other]

/-- A sign or none, digits, and places or none. -/
theorem readNumber_written (negative : Bool) {whole places : List Char} (something : whole ≠ [])
    (digit : ∀ c ∈ whole, c.isDigit = true) (isPlaces : IsPlaces places) :
    readNumber ((if negative then ['-'] else []) ++ (whole ++ places)) =
      some ((if negative then ['-'] else []) ++ (whole ++ places), []) := by
  have ends : ∀ c, places.head? = some c → c.isDigit = false := by
    obtain rfl | ⟨ds, -, -, rfl⟩ := isPlaces
    · exact fun _ first => nomatch first
    · rintro c ⟨⟩
      rfl
  have read := readDigits_append something digit ends
  have fraction := readFraction_of_isPlaces isPlaces
  cases written : whole with
  | nil => exact absurd written something
  | cons c more =>
    rw [written] at digit read
    rw [List.cons_append] at read
    rw [List.cons_append, readNumber, splitMinus_signed negative (digit c List.mem_cons_self)]
    simp [read, fraction, readExponent]

theorem readPlainHex_of_numeric {cs : List Char} (numeric : ∀ c ∈ cs, IsNumeric c) :
    readPlainHex cs = none := by
  have no_mark : readWord "0x".toList cs = none := by
    cases cs with
    | nil => rfl
    | cons c rest =>
      cases rest with
      | nil =>
        change (if c.toLower = '0'.toLower then none else none) = none
        exact ite_self none
      | cons other more =>
        have mark := (numeric other (List.mem_cons_of_mem c List.mem_cons_self)).2
        have stops : readWord "x".toList (other :: more) = none :=
          readWord_of_mark mark (by decide) _ _
        change (if c.toLower = '0'.toLower then readWord "x".toList (other :: more) else none) = none
        rw [stops]
        exact ite_self none
  simp only [readPlainHex, no_mark]
  rfl

/-- A number with nothing behind it. -/
theorem read?_number {cs : List Char} (numeric : ∀ c ∈ cs, IsNumeric c)
    (whole : readNumber cs = some (cs, [])) : read? cs = some (number cs, []) := by
  cases cs with
  | nil => cases whole
  | cons c rest =>
    obtain ⟨above, below⟩ := numeric c List.mem_cons_self
    have no_hex := readPlainHex_of_numeric numeric
    have no_quote : readQuoted (c :: rest) = none := by
      have other : c ≠ '\x27' := by
        rintro rfl
        exact absurd above (by decide)
      simp [readQuoted, readChar, other]
    have no_bytes : readByteString (c :: rest) = none := by
      simp only [readByteString, no_quote]
      rfl
    have no_hash : readHashed (c :: rest) = none := by
      have other : c ≠ '#' := by
        rintro rfl
        exact absurd above (by decide)
      simp [readHashed, readChar, other]
    rw [read?_of_mark below]
    simp only [markedForms, List.findSome?_cons, no_hex, no_quote, no_bytes, no_hash, whole,
      Option.map_none, Option.map_some]

end SqlScribe.Literal

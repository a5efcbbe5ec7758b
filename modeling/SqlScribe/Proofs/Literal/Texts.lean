import SqlScribe.Proofs.Literal.Forms

/-!
# Texts of literals

The text of a literal, read as a whole: nothing stands behind the literal, and no blank at its ends.
-/

namespace SqlScribe.Literal

open SqlScribe.Text

/-- Pairs of hexadecimal digits are read as bytes. -/
theorem readBytes_of_isHexDigit {ds : List Char} (hex : ∀ c ∈ ds, isHexDigit c = true)
    (even : ds.length % 2 = 0) : readBytes ds = .ok (hexBytes ds) := by
  have good : ds.takeWhile isHexDigit = ds := List.takeWhile_eq_self_iff.mpr hex
  simp [readBytes, good, even]

theorem readBytes_upperHex (bytes : List UInt8) : readBytes (upperHex bytes) = .ok bytes := by
  have even : (upperHex bytes).length % 2 = 0 := by
    rw [length_upperHex]
    omega
  rw [readBytes_of_isHexDigit (fun _ => isHexDigit_of_mem_upperHex) even, hexBytes_upperHex]

theorem readBytes_lowerHex (bytes : List UInt8) : readBytes (lowerHex bytes) = .ok bytes := by
  have even : (lowerHex bytes).length % 2 = 0 := by
    rw [length_lowerHex]
    omega
  rw [readBytes_of_isHexDigit (fun _ => isHexDigit_of_mem_lowerHex) even, hexBytes_lowerHex]

theorem ne_quote_of_isHexDigit {ds : List Char} (hex : ∀ c ∈ ds, isHexDigit c = true) :
    ∀ c ∈ ds, c ≠ '\x27' :=
  fun c member => (isPlain_of_isHexDigit (hex c member)).ne_of_toNat (by decide)

theorem quotedText_of_plain {s : String} (plain : ∀ c ∈ s.toList, c ≠ '\x27') :
    Dialect.quotedText s = "'" ++ s ++ "'" := by
  have same : doubled '\x27' s = s := by
    change String.ofList (quoteDoubled s.toList) = s
    rw [quoteDoubled_of_plain plain, String.ofList_toList]
  rw [Dialect.quotedText, same]

/-- Blanks are disregarded around a literal, but none stands at the ends of one. -/
theorem ofChars_between {a z : Char} {cs : List Char} {literal : Literal}
    (first : isBlank a = false) (last : isBlank z = false)
    (read : read? (a :: (cs ++ [z])) = some (literal, [])) :
    ofChars (a :: (cs ++ [z])) = .ok literal := by
  have kept : strip isBlank (a :: (cs ++ [z])) = a :: (cs ++ [z]) := by
    apply strip_eq_self
    · rintro c ⟨⟩
      exact first
    · intro c final
      rw [← List.cons_append, List.getLast?_concat] at final
      cases final
      exact last
  rw [ofChars, kept, read]

theorem ofChars_of_plain {cs : List Char} {literal : Literal} (plain : ∀ c ∈ cs, IsPlain c)
    (read : read? cs = some (literal, [])) : ofChars cs = .ok literal := by
  rw [ofChars, strip_of_plain plain, read]

theorem ofChars_quotedText (s : String) :
    ofChars (Dialect.quotedText s).toList = .ok (text s.toList) := by
  have read := read?_quotedText s
  rw [toList_quotedText] at read ⊢
  exact ofChars_between (by decide) (by decide) read

theorem ofChars_nationalText (s : String) :
    ofChars ("N" ++ Dialect.quotedText s).toList = .ok (text s.toList) := by
  have written : ("N" ++ Dialect.quotedText s).toList =
      'N' :: ('\x27' :: quoteDoubled s.toList ++ ['\x27']) := by
    rw [String.toList_append, toList_quotedText]
    rfl
  have read := read?_nationalText s
  rw [written] at read ⊢
  exact ofChars_between (by decide) (by decide) read

theorem ofChars_quotedHex {ds : List Char} (hex : ∀ c ∈ ds, isHexDigit c = true) :
    ofChars ("X'" ++ .ofList ds ++ "'").toList = .ok (.hex ds) := by
  have written : ("X'" ++ .ofList ds ++ "'").toList = 'X' :: ('\x27' :: ds ++ ['\x27']) := by
    simp
  rw [written]
  exact ofChars_between (by decide) (by decide) (read?_quotedHex (ne_quote_of_isHexDigit hex))

theorem ofChars_blobCall {ds : List Char} (hex : ∀ c ∈ ds, isHexDigit c = true) :
    ofChars ("BLOB(X'" ++ .ofList ds ++ "')").toList = .ok (.hex ds) := by
  have written : ("BLOB(X'" ++ .ofList ds ++ "')").toList =
      'B' :: ("LOB(X'".toList ++ ds ++ ['\x27'] ++ [')']) := by
    simp
  have read := read?_blobCall (ne_quote_of_isHexDigit hex)
  have same : "BLOB(X".toList ++ '\x27' :: (ds ++ ['\x27', ')']) =
      'B' :: ("LOB(X'".toList ++ ds ++ ['\x27'] ++ [')']) := by
    simp
  rw [same] at read
  rw [written]
  exact ofChars_between (by decide) (by decide) read

theorem ofChars_plainHex {ds : List Char} (hex : ∀ c ∈ ds, isHexDigit c = true) :
    ofChars ("0x" ++ .ofList ds).toList = .ok (.hex ds) := by
  have written : ("0x" ++ .ofList ds).toList = '0' :: 'x' :: ds := by simp
  have plain : ∀ c ∈ '0' :: 'x' :: ds, IsPlain c := by
    simp only [List.forall_mem_cons]
    exact ⟨⟨by decide, by decide⟩, ⟨by decide, by decide⟩, fun c member =>
      isPlain_of_isHexDigit (hex c member)⟩
  rw [written]
  exact ofChars_of_plain plain (read?_plainHex hex)

theorem ofChars_byteString {ds : List Char} (hex : ∀ c ∈ ds, isHexDigit c = true) :
    ofChars ("'\\x" ++ .ofList ds ++ "'::bytea").toList = .ok (.hex ds) := by
  have written : ("'\\x" ++ .ofList ds ++ "'::bytea").toList =
      '\x27' :: ('\\' :: 'x' :: (ds ++ "'::byte".toList) ++ ['a']) := by
    simp
  have read := read?_byteString (ne_quote_of_isHexDigit hex)
  have same : '\x27' :: '\\' :: 'x' :: (ds ++ '\x27' :: "::bytea".toList) =
      '\x27' :: ('\\' :: 'x' :: (ds ++ "'::byte".toList) ++ ['a']) := by
    simp
  rw [same] at read
  rw [written]
  exact ofChars_between (by decide) (by decide) read

theorem ofChars_hashed {cs : List Char} (something : cs ≠ []) (plain : ∀ c ∈ cs, c ≠ '#') :
    ofChars ("#" ++ .ofList cs ++ "#").toList = .ok (text cs) := by
  have written : ("#" ++ .ofList cs ++ "#").toList = '#' :: (cs ++ ['#']) := by simp
  rw [written]
  exact ofChars_between (by decide) (by decide) (read?_hashed something plain)

theorem ofChars_dateCall {call format : String} {cs : List Char}
    (known : call = "TO_DATE" ∨ call = "TO_TIMESTAMP") (plain : ∀ c ∈ cs, c ≠ '\x27')
    (formatPlain : '\x27' ∉ format.toList) :
    ofChars (call ++ "('" ++ .ofList cs ++ ("', '" ++ format ++ "')")).toList = .ok (text cs) := by
  have written : (call ++ "('" ++ .ofList cs ++ ("', '" ++ format ++ "')")).toList =
      call.toList ++ '(' :: '\x27' :: (cs ++ '\x27' :: ',' :: ' ' :: '\x27' ::
        (format.toList ++ ['\x27', ')'])) := by
    simp
  have call_known : call.toList = "TO_DATE".toList ∨ call.toList = "TO_TIMESTAMP".toList :=
    known.imp (congrArg _) (congrArg _)
  have read := read?_dateCall call_known plain fun c member same => formatPlain (same ▸ member)
  obtain ⟨rest, begins⟩ : ∃ rest, call.toList = 'T' :: rest := by
    obtain rfl | rfl := known <;> exact ⟨_, rfl⟩
  have ends : call.toList ++ '(' :: '\x27' :: (cs ++ '\x27' :: ',' :: ' ' :: '\x27' ::
      (format.toList ++ ['\x27', ')'])) = 'T' :: (rest ++ '(' :: '\x27' :: (cs ++ '\x27' :: ',' ::
        ' ' :: '\x27' :: (format.toList ++ ['\x27'])) ++ [')']) := by
    simp [begins]
  rw [ends] at read
  rw [written, ends]
  exact ofChars_between (by decide) (by decide) read

/-- A sign or none, digits, and places or none. -/
theorem ofChars_number (negative : Bool) {whole places : List Char} (something : whole ≠ [])
    (digit : ∀ c ∈ whole, c.isDigit = true) (isPlaces : IsPlaces places) :
    ofChars ((if negative then ['-'] else []) ++ (whole ++ places)) =
      .ok (number ((if negative then ['-'] else []) ++ (whole ++ places))) := by
  have numeric := isNumeric_written negative whole digit isPlaces
  have read := read?_number numeric (readNumber_written negative something digit isPlaces)
  exact ofChars_of_plain (fun c member => (numeric c member).isPlain) read

theorem isPlaces_of_amount (m : Decimal) :
    IsPlaces (if m.scale = 0 then [] else '.' :: m.placeDigits) := by
  by_cases whole : m.scale = 0
  · exact .inl (if_pos whole)
  · refine .inr ⟨m.placeDigits, ?_, fun _ => Decimal.isDigit_of_mem_placeDigits, if_neg whole⟩
    intro nothing
    have long := m.length_placeDigits
    rw [nothing] at long
    exact whole long.symm

theorem ofChars_numeral (n : Int) : ofChars (numeral n).toList = .ok (number (signedDigits n)) := by
  have read := ofChars_number (decide (n < 0)) (digits_ne_nil n.natAbs)
    (fun _ => isDigit_of_mem_digits) (.inl rfl)
  rw [List.append_nil, ← signedDigits_eq] at read
  rwa [numeral, String.toList_ofList]

theorem ofChars_amount (m : Decimal) : ofChars m.toText.toList = .ok (number m.toChars) := by
  have read := ofChars_number m.negative m.wholeDigits_ne_nil
    (fun _ => Decimal.isDigit_of_mem_wholeDigits) (isPlaces_of_amount m)
  rw [← Decimal.toChars_eq] at read
  rwa [Decimal.toText, String.toList_ofList]

theorem trim_numeral (n : Int) : trim (numeral n) = numeral n := by
  have numeric := isNumeric_written (decide (n < 0)) (digits n.natAbs)
    (fun _ => isDigit_of_mem_digits) (.inl rfl)
  rw [List.append_nil, ← signedDigits_eq] at numeric
  apply trim_of_plain
  rw [numeral, String.toList_ofList]
  exact fun c member => (numeric c member).isPlain

theorem trim_amount (m : Decimal) : trim m.toText = m.toText := by
  have numeric := isNumeric_written m.negative m.wholeDigits
    (fun _ => Decimal.isDigit_of_mem_wholeDigits) (isPlaces_of_amount m)
  rw [← Decimal.toChars_eq] at numeric
  apply trim_of_plain
  rw [Decimal.toText, String.toList_ofList]
  exact fun c member => (numeric c member).isPlain

end SqlScribe.Literal

import SqlScribe.Json.Passing

/-!
# Strings of a printed document

What is printed for a string is read as that string, and passed over, up to its closing quote.
-/

namespace SqlScribe.Json

open Text

section Strings

variable {rest : List Char} {fuel : Nat}

theorem hexValue_lowerHexDigit : ∀ n < 16, hexValue (lowerHexDigit n) = n := by decide

theorem isHexDigit_lowerHexDigit : ∀ n < 16, isHexDigit (lowerHexDigit n) = true := by decide

/-- A control character is read from its number. -/
theorem readHexUnit_control {c : Char} (control : c.toNat < 32) :
    readHexUnit
        ('0' :: '0' :: lowerHexDigit (c.toNat / 16) :: lowerHexDigit (c.toNat % 16) :: rest) =
      .ok (c.toNat, rest) := by
  have high := hexValue_lowerHexDigit (c.toNat / 16) (by omega)
  have low := hexValue_lowerHexDigit (c.toNat % 16) (by omega)
  have highHex := isHexDigit_lowerHexDigit (c.toNat / 16) (by omega)
  have lowHex := isHexDigit_lowerHexDigit (c.toNat % 16) (by omega)
  have zero : isHexDigit '0' = true := by decide
  have zeroValue : hexValue '0' = 0 := by decide
  have whole : c.toNat / 16 * 16 + c.toNat % 16 = c.toNat := by omega
  simp [readHexUnit, zero, highHex, lowHex, zeroValue, high, low, whole]

theorem readUnicodeEscape_control {c : Char} (control : c.toNat < 32) :
    readUnicodeEscape
        ('0' :: '0' :: lowerHexDigit (c.toNat / 16) :: lowerHexDigit (c.toNat % 16) :: rest) =
      .ok (c, rest) := by
  have low : ¬ (0xDC00 ≤ c.toNat ∧ c.toNat ≤ 0xDFFF) := by omega
  have high : ¬ (0xD800 ≤ c.toNat ∧ c.toNat ≤ 0xDBFF) := by omega
  rw [readUnicodeEscape, readHexUnit_control control]
  simp only [bind, Except.bind, Bool.and_eq_true, decide_eq_true_eq, if_neg low, if_neg high,
    Char.ofNat_toNat, pure, Except.pure]

theorem eq_ofNat_of_toNat {c : Char} {n : Nat} (same : c.toNat = n) : c = .ofNat n := by
  rw [← same, Char.ofNat_toNat]

/-- A character is printed after a backslash, by its number, or as it is. -/
theorem escaped_cases (c : Char) :
    (∃ mark, escaped c = ['\\', mark] ∧ mark ≠ 'u' ∧
        ∀ rest, readEscape (mark :: rest) = .ok (c, rest)) ∨
      (c.toNat < 32 ∧ escaped c = ['\\', 'u', '0', '0', lowerHexDigit (c.toNat / 16),
        lowerHexDigit (c.toNat % 16)]) ∨
      (escaped c = [c] ∧ c ≠ '"' ∧ c ≠ '\\' ∧ 32 ≤ c.toNat) := by
  unfold escaped
  split
  · subst c
    exact .inl ⟨'"', rfl, by decide, fun _ => rfl⟩
  split
  · subst c
    exact .inl ⟨'\\', rfl, by decide, fun _ => rfl⟩
  split
  · subst c
    exact .inl ⟨'n', rfl, by decide, fun _ => rfl⟩
  split
  · subst c
    exact .inl ⟨'r', rfl, by decide, fun _ => rfl⟩
  split
  · subst c
    exact .inl ⟨'t', rfl, by decide, fun _ => rfl⟩
  split
  · rename_i backspace
    exact .inl ⟨'b', rfl, by decide, fun _ => by rw [eq_ofNat_of_toNat backspace]; rfl⟩
  split
  · rename_i formFeed
    exact .inl ⟨'f', rfl, by decide, fun _ => by rw [eq_ofNat_of_toNat formFeed]; rfl⟩
  split
  · rename_i control
    exact .inr (.inl ⟨control, rfl⟩)
  · rename_i quote backslash _ _ _ _ _ visible
    exact .inr (.inr ⟨rfl, quote, backslash, by omega⟩)

/-- A character is read from what is printed for it. -/
theorem readQuoted_escaped (seen : List Char) (c : Char) :
    readQuoted seen (fuel + 1) (escaped c ++ rest) = readQuoted (c :: seen) fuel rest := by
  obtain ⟨mark, printed, -, read⟩ | ⟨control, printed⟩ | ⟨printed, quote, backslash, visible⟩ :=
    escaped_cases c
  · rw [printed]
    simp only [List.cons_append, List.nil_append, readQuoted, read, bind, Except.bind]
  · rw [printed]
    simp only [List.cons_append, List.nil_append, readQuoted, readEscape,
      readUnicodeEscape_control control, bind, Except.bind]
  · rw [printed, List.singleton_append, readQuoted]
    · exact if_neg (Nat.not_lt.mpr visible)
    · exact quote
    · exact backslash

/-- A string is read up to its closing quote. -/
theorem readQuoted_quoted (seen cs : List Char) (enough : cs.length < fuel) :
    readQuoted seen fuel (cs.flatMap escaped ++ '"' :: rest) =
      .ok (.ofList (seen.reverse ++ cs), rest) := by
  induction cs generalizing seen fuel with
  | nil =>
    obtain ⟨fuel, rfl⟩ := Nat.exists_eq_succ_of_ne_zero (Nat.ne_of_gt enough)
    rw [List.append_nil]
    rfl
  | cons c others ih =>
    obtain ⟨fuel, rfl⟩ := Nat.exists_eq_succ_of_ne_zero (Nat.ne_of_gt (Nat.zero_lt_of_lt enough))
    rw [List.flatMap_cons, List.append_assoc, readQuoted_escaped, ih _ (by simpa using enough)]
    simp

theorem skipString_escaped (c : Char) :
    skipString (fuel + 1) (escaped c ++ rest) = skipString fuel rest := by
  obtain ⟨mark, printed, other, read⟩ | ⟨control, printed⟩ | ⟨printed, quote, backslash, visible⟩ :=
    escaped_cases c
  · rw [printed, List.cons_append, List.singleton_append, skipString]
    · rw [read]
      rfl
    · rintro _ ⟨⟩
      exact other rfl
  · rw [printed]
    simp only [List.cons_append, List.nil_append, skipString, readHexUnit_control control, bind,
      Except.bind]
  · rw [printed, List.singleton_append, skipString]
    · exact if_neg (Nat.not_lt.mpr visible)
    · exact quote
    · exact fun _ same _ => backslash same
    · exact backslash

/-- A string is passed over up to its closing quote. -/
theorem skipString_quoted (cs : List Char) (enough : cs.length < fuel) :
    skipString fuel (cs.flatMap escaped ++ '"' :: rest) = .ok rest := by
  induction cs generalizing fuel with
  | nil =>
    obtain ⟨fuel, rfl⟩ := Nat.exists_eq_succ_of_ne_zero (Nat.ne_of_gt enough)
    rfl
  | cons c others ih =>
    obtain ⟨fuel, rfl⟩ := Nat.exists_eq_succ_of_ne_zero (Nat.ne_of_gt (Nat.zero_lt_of_lt enough))
    rw [List.flatMap_cons, List.append_assoc, skipString_escaped, ih (by simpa using enough)]

end Strings

end SqlScribe.Json

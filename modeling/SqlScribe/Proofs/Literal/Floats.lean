import SqlScribe.Proofs.Json.Numbers
import SqlScribe.Proofs.Literal.RoundTrip

/-!
# Floating-point numbers as literals

A finite number is written without a power of ten, with the fewest digits that are rounded to it.
Its text is the text of a number, and is read as the number itself, the sign of a zero included.
-/

namespace SqlScribe

open SqlScribe.Text Json

namespace Binary64

/-- Digits before a point and behind it, which stand for a decimal. -/
structure Spells (whole fraction : List Char) (d : Decimals) : Prop where
  some_digit : whole ≠ []
  digit : ∀ c ∈ whole ++ fraction, c.isDigit = true
  value : ∀ negative, ofDecimal negative (ofDigits (whole ++ fraction)) (-fraction.length) =
    ofDecimal negative d.mantissa d.power

/-- Digits without a power of ten stand for a decimal if only zeros were put behind its own. -/
theorem spells_of_value {whole fraction : List Char} {d : Decimals} (some_digit : whole ≠ [])
    (digit : ∀ c ∈ whole ++ fraction, c.isDigit = true) (something : 0 < d.mantissa) (zeros : Nat)
    (mantissa : ofDigits (whole ++ fraction) = d.mantissa * 10 ^ zeros)
    (power : -(fraction.length : Int) = d.power - zeros) : Spells whole fraction d := by
  refine ⟨some_digit, digit, fun negative => ?_⟩
  have positive : 0 < d.mantissa * 10 ^ zeros := Nat.mul_pos something (Nat.pow_pos (by decide))
  rw [mantissa, power]
  apply ofDecimal_congr positive something
  push_cast
  rw [zpow_sub₀ (by norm_num), zpow_natCast, mul_assoc, mul_div_cancel₀ _ (by positivity)]

section Positional

variable {d : Decimals} (something : 0 < d.mantissa)

include something

/-- All digits stand behind the point. -/
theorem spells_below_one {zeros : Nat}
    (count : -(((digits d.mantissa).length : Int) + d.power) = zeros) :
    Spells ['0'] (List.replicate zeros '0' ++ digits d.mantissa) d := by
  apply spells_of_value (by simp) _ something 0
  · rw [ofDigits, Nat.ofDigitChars_append, Nat.ofDigitChars_append,
      Nat.ofDigitChars_replicate_zero]
    exact (ofDigits_digits d.mantissa).trans (Nat.mul_one _).symm
  · rw [List.length_append, List.length_replicate]
    omega
  · simp only [List.forall_mem_append, List.forall_mem_singleton]
    exact ⟨rfl, fun c => isDigit_of_mem_zeros, fun c => isDigit_of_mem_digits⟩

/-- Zeros fill the digits up to the point. -/
theorem spells_whole {zeros : Nat} (count : d.power = zeros) :
    Spells (digits d.mantissa ++ List.replicate zeros '0') [] d := by
  have some_digit := List.append_ne_nil_of_left_ne_nil (digits_ne_nil d.mantissa)
    (List.replicate zeros '0')
  apply spells_of_value some_digit _ something zeros
  · rw [List.append_nil, ofDigits_append_zeros]
  · rw [count]
    simp
  · simp only [List.append_nil, List.forall_mem_append]
    exact ⟨fun c => isDigit_of_mem_digits, fun c => isDigit_of_mem_zeros⟩

/-- The point stands between two digits. -/
theorem spells_between {k : Nat} (places : ((digits d.mantissa).length : Int) + d.power = k)
    (some_digit : 0 < k) (behind : d.power < 0) :
    Spells ((digits d.mantissa).take k) ((digits d.mantissa).drop k) d := by
  apply spells_of_value _ _ something 0
  · rw [ofDigits_take_append_drop, Nat.pow_zero, Nat.mul_one]
  · rw [List.length_drop]
    omega
  · rw [← List.length_pos_iff_ne_nil, List.length_take]
    omega
  · rw [List.take_append_drop]
    exact fun c => isDigit_of_mem_digits

/-- The digits of a decimal, the point put in its place, stand for it. -/
theorem exists_spells_positional :
    ∃ whole fraction, positional (digits d.mantissa) ((digits d.mantissa).length + d.power) =
      whole ++ fractionText fraction ∧ Spells whole fraction d := by
  have nonempty := digits_ne_nil d.mantissa
  by_cases small : ((digits d.mantissa).length : Int) + d.power ≤ 0
  · obtain ⟨zeros, count⟩ := Int.eq_ofNat_of_zero_le (by omega :
      0 ≤ -(((digits d.mantissa).length : Int) + d.power))
    refine ⟨_, _, ?_, spells_below_one something count⟩
    rw [positional, if_pos small, count, Int.toNat_natCast, fractionText,
      if_neg (by simp [nonempty])]
    rfl
  by_cases large : 0 ≤ d.power
  · obtain ⟨zeros, count⟩ := Int.eq_ofNat_of_zero_le large
    have places : (((digits d.mantissa).length : Int) + d.power).toNat =
        (digits d.mantissa).length + zeros := by omega
    refine ⟨_, _, ?_, spells_whole something count⟩
    rw [positional, if_neg small, if_pos (by omega), places, Nat.add_sub_cancel_left]
    exact (List.append_nil _).symm
  · obtain ⟨k, places⟩ := Int.eq_ofNat_of_zero_le (by omega :
      0 ≤ ((digits d.mantissa).length : Int) + d.power)
    have behind : (digits d.mantissa).drop k ≠ [] := by
      rw [← List.length_pos_iff_ne_nil, List.length_drop]
      omega
    refine ⟨_, _, ?_, spells_between something places (by omega) (by omega)⟩
    rw [positional, if_neg small, if_neg (by omega), places, Int.toNat_natCast, fractionText,
      if_neg (by simp [behind])]

end Positional

/-- A finite number is written as a decimal that is rounded to it. -/
theorem exists_spells {x : Binary64} (finite : x.isFinite = true) :
    ∃ whole fraction d, x.toText.toList =
      (if x.isNegative then ['-'] else []) ++ (whole ++ fractionText fraction) ∧
      Spells whole fraction d ∧ ofDecimal x.isNegative d.mantissa d.power = x := by
  have number : x.isNaN = false := by
    simp only [isFinite, isNaN, decide_eq_true_eq, decide_eq_false_iff_not] at finite ⊢
    omega
  have text : x.toText.toList = (if x.isNegative then ['-'] else []) ++ x.unsignedText := by
    rw [toText, if_neg (by simp [number]), if_pos finite, String.toList_ofList]
    cases x.isNegative <;> rfl
  rw [text]
  by_cases zero : x.magnitudeBits = 0
  · refine ⟨['0'], [], ⟨0, 0⟩, ?_, ⟨by simp, by simp, fun _ => rfl⟩, ?_⟩
    · rw [unsignedText, if_pos zero]
      rfl
    · rw [ofDecimal_zero, ← zero]
      exact x.withSign_self
  · have something := (readsBack_shortest finite zero .upper).2
    obtain ⟨whole, fraction, positioned, spells⟩ := exists_spells_positional something
    refine ⟨whole, fraction, x.shortest .upper, ?_, spells,
      ofDecimal_shortest finite zero .upper⟩
    rw [unsignedText, if_neg zero, positioned]

/-- What stands before a point and behind it is read as one decimal. -/
theorem readDecimals?_spelled {whole fraction : List Char} (some_digit : whole ≠ [])
    (digit : ∀ c ∈ whole ++ fraction, c.isDigit = true) :
    readDecimals? (whole ++ fractionText fraction) =
      some ⟨ofDigits (whole ++ fraction), -fraction.length⟩ := by
  rw [List.forall_mem_append] at digit
  have ends : EndsDigits (fractionText fraction) := by
    unfold fractionText
    split
    · exact endsDigits_nil
    · exact endsDigits_cons rfl fraction
  have taken := takeWhile_digits digit.1 ends
  have left := dropWhile_digits digit.1 ends
  have nonempty : whole.isEmpty = false := List.isEmpty_eq_false_iff.mpr some_digit
  cases fraction with
  | nil =>
    have none_left : fractionText [] = [] := rfl
    rw [none_left] at taken left ⊢
    simp only [readDecimals?, taken, left, nonempty]
    rfl
  | cons c more =>
    have point : fractionText (c :: more) = '.' :: c :: more := rfl
    have inside := takeWhile_digits digit.2 endsDigits_nil
    have after := dropWhile_digits digit.2 endsDigits_nil
    rw [List.append_nil] at inside after
    rw [point] at taken left ⊢
    simp only [readDecimals?, taken, left, inside, after, nonempty]
    simp

/-- A number comes back from its text. -/
theorem ofText?_toText {x : Binary64} (finite : x.isFinite = true) :
    ofText? x.toText = some x := by
  obtain ⟨whole, fraction, d, text, spells, rounded⟩ := exists_spells finite
  have read := readDecimals?_spelled spells.some_digit spells.digit
  obtain ⟨c, more, first⟩ := List.exists_cons_of_ne_nil spells.some_digit
  have digit : c.isDigit = true := spells.digit c (by simp [first])
  have sign : splitSign x.toText.toList = (x.isNegative, whole ++ fractionText fraction) := by
    rw [text, first, List.cons_append, splitSign_signed _ digit]
  -- No word begins with a digit.
  have no_word {w : Char} {word : String} (letter : w.isDigit = false)
      (begins : word.toList.head? = some w) :
      (String.ofList ((whole ++ fractionText fraction).map Char.toLower) == word) = false := by
    rw [beq_eq_false_iff_ne]
    intro same
    rw [← same, String.toList_ofList, first] at begins
    have lower : c.toLower = w := by simpa using begins
    have unchanged : c.toLower = c := by
      have range := (Literal.isNumeric_of_isDigit digit).2
      refine dif_neg ?_
      rintro ⟨above, -⟩
      have larger : 65 ≤ c.toNat := UInt32.le_iff_toNat_le.mp above
      omega
    rw [← lower, unchanged, digit] at letter
    cases letter
  have inf := @no_word 'i' "inf" rfl rfl
  have infinity := @no_word 'i' "infinity" rfl rfl
  have nan := @no_word 'n' "nan" rfl rfl
  simp only [ofText?, sign, inf, infinity, nan, Bool.or_self, Bool.false_eq_true, if_false, read,
    Option.map_some, spells.value, rounded]

end Binary64

theorem Literal.isPlaces_fractionText {fraction : List Char}
    (digit : ∀ c ∈ fraction, c.isDigit = true) : IsPlaces (fractionText fraction) := by
  cases fraction with
  | nil => exact .inl rfl
  | cons c more => exact .inr ⟨c :: more, List.cons_ne_nil c more, digit, rfl⟩

/-- The literal of a finite number is read as the number. -/
theorem Value.ofLiteral_float {x : Binary64} (finite : x.isFinite = true) :
    ofLiteral x.toText .float = .ok (.float x) := by
  obtain ⟨whole, fraction, d, text, spells, -⟩ := Binary64.exists_spells finite
  obtain ⟨whole_digit, fraction_digit⟩ := List.forall_mem_append.mp spells.digit
  have places := Literal.isPlaces_fractionText fraction_digit
  have read := Literal.ofChars_number x.isNegative spells.some_digit whole_digit places
  have numeric := Literal.isNumeric_written x.isNegative whole whole_digit places
  rw [← text] at read numeric
  have trimmed : trim x.toText = x.toText :=
    trim_of_plain fun c member => (numeric c member).isPlain
  apply ofLiteral_of_ofChars read
  rw [toValue_number (by decide), String.ofList_toList]
  apply convert_eq_ok.mpr
  change (Binary64.ofText? (trim x.toText)).map float = some (.float x)
  rw [trimmed, Binary64.ofText?_toText finite]
  rfl

end SqlScribe

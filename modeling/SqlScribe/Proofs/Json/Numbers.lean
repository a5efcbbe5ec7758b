import SqlScribe.Json.Passing
import SqlScribe.Proofs.Number.Reading
import SqlScribe.Proofs.Number.Shortest

/-!
# Numbers of a printed document

What is printed for a number is read as that number, and passed over, up to its last character. A
whole number and one with a point or a power of ten are told apart by their text.
-/

namespace SqlScribe.Json

open Text

/-- What may follow a value: nothing, or what separates or closes. -/
def EndsValue (rest : List Char) : Prop := ∀ c, rest.head? = some c → c = ',' ∨ c = ']' ∨ c = '\x7d'

theorem EndsValue.endsDigits {rest : List Char} (ends : EndsValue rest) : EndsDigits rest := by
  intro c first
  obtain rfl | rfl | rfl := ends c first <;> rfl

section Numbers

variable {float : FloatOf} {negative : Bool} {whole fraction ds rest : List Char}
  {exponent : Option Int}

/-- The digits behind the point, if there are any. -/
def fractionText (fraction : List Char) : List Char :=
  if fraction.isEmpty then [] else '.' :: fraction

/-- The power of ten, if there is one. -/
def exponentText : Option Int → List Char
  | none => []
  | some power => 'e' :: signedDigits power

/-- Digits that do not begin with a zero, unless the zero is all there is. -/
def IsWhole (whole : List Char) : Prop :=
  whole ≠ [] ∧ (∀ c ∈ whole, c.isDigit = true) ∧ (whole.head? = some '0' → whole.length = 1)

theorem readDigits_append (something : ds ≠ []) (digit : ∀ c ∈ ds, c.isDigit = true)
    (ends : EndsDigits rest) : readDigits (ds ++ rest) = .ok (ds, rest) := by
  have taken := takeWhile_digits digit ends
  have left := dropWhile_digits digit ends
  cases ds with
  | nil => exact absurd rfl something
  | cons c more =>
    have first : c.isDigit = true := digit c List.mem_cons_self
    rw [List.cons_append] at taken left ⊢
    simp only [readDigits, first, if_true, taken, left]

theorem skipDigits_append (something : ds ≠ []) (digit : ∀ c ∈ ds, c.isDigit = true)
    (ends : EndsDigits rest) : skipDigits (ds ++ rest) = .ok rest := by
  cases ds with
  | nil => exact absurd rfl something
  | cons c more =>
    rw [List.forall_mem_cons] at digit
    have left := dropWhile_digits digit.2 ends
    rw [List.cons_append]
    simp only [skipDigits, digit.1, if_true, left]

/-- What follows a number does not belong to it. -/
theorem EndsValue.cases_on_head {P : List Char → Prop} (ends : EndsValue rest) (nothing : P [])
    (something : ∀ c more, c = ',' ∨ c = ']' ∨ c = '\x7d' → P (c :: more)) : P rest := by
  cases rest with
  | nil => exact nothing
  | cons c more => exact something c more (ends c rfl)

theorem splitSign_signedDigits (power : Int) (rest : List Char) :
    splitSign (signedDigits power ++ rest) = (decide (power < 0), digits power.natAbs ++ rest) := by
  obtain ⟨c, more, written, digit⟩ := exists_digits power.natAbs
  rw [signedDigits_eq, List.append_assoc, written, List.cons_append, splitSign_signed _ digit]

/-- The power of ten is read as it was written. -/
theorem readPower_exponentText (ends : EndsValue rest) :
    readPower (exponentText exponent ++ rest) = .ok (exponent, rest) := by
  cases exponent with
  | none =>
    apply ends.cases_on_head
    · rfl
    · rintro c more (rfl | rfl | rfl) <;> rfl
  | some power =>
    have read : readDigits (digits power.natAbs ++ rest) = .ok (digits power.natAbs, rest) :=
      readDigits_append (digits_ne_nil _) (fun _ => isDigit_of_mem_digits) ends.endsDigits
    have value : (if power < 0 then -(power.natAbs : Int) else power.natAbs) = power := by
      split <;> omega
    simp only [exponentText, List.cons_append, readPower, splitSign_signedDigits, read, bind,
      Except.bind, ofDigits_digits, decide_eq_true_eq, value]

theorem endsDigits_exponentText (ends : EndsValue rest) :
    EndsDigits (exponentText exponent ++ rest) := by
  cases exponent with
  | none => exact ends.endsDigits
  | some power => exact endsDigits_cons rfl _

/-- The digits behind the point are read as they were written. -/
theorem readFraction_fractionText (digit : ∀ c ∈ fraction, c.isDigit = true)
    (ends : EndsValue rest) :
    readFraction (fractionText fraction ++ (exponentText exponent ++ rest)) =
      .ok (fraction, exponentText exponent ++ rest) := by
  cases fraction with
  | nil =>
    cases exponent with
    | none =>
      apply ends.cases_on_head
      · rfl
      · rintro c more (rfl | rfl | rfl) <;> rfl
    | some power => rfl
  | cons d others =>
    exact readDigits_append (List.cons_ne_nil d others) digit (endsDigits_exponentText ends)

theorem endsDigits_fractionText (ends : EndsValue rest) :
    EndsDigits (fractionText fraction ++ (exponentText exponent ++ rest)) := by
  unfold fractionText
  split
  · exact endsDigits_exponentText ends
  · exact endsDigits_cons rfl _

/-- A number is read from its digits. Without a point and a power of ten it is a whole one, as long
as it fits. -/
theorem readNumber_written (isWhole : IsWhole whole)
    (digit : ∀ c ∈ fraction, c.isDigit = true) (ends : EndsValue rest) :
    readNumber float negative
        (whole ++ (fractionText fraction ++ (exponentText exponent ++ rest))) =
      match if fraction.isEmpty && exponent.isNone then wholeNumber? negative (ofDigits whole)
        else none with
      | some n => .ok (.integer n, rest)
      | none =>
        if (float negative whole fraction exponent).isFinite then
          .ok (.real (float negative whole fraction exponent), rest)
        else .error .numberOutOfRange := by
  obtain ⟨something, digits, plain⟩ := isWhole
  have leading : (whole.head? == some '0' && decide (1 < whole.length)) = false := by
    rw [Bool.and_eq_false_iff]
    by_cases zero : whole.head? = some '0'
    · exact .inr (by simp [plain zero])
    · exact .inl (by simpa using zero)
  rw [readNumber, readDigits_append something digits (endsDigits_fractionText ends)]
  -- Whether the digits are a whole number that fits decides both sides.
  cases fits : (if fraction.isEmpty && exponent.isNone then
      wholeNumber? negative (ofDigits whole) else none) <;>
    simp only [bind, Except.bind, leading, Bool.false_eq_true, if_false,
      readFraction_fractionText digit ends, readPower_exponentText ends, fits]

theorem skipExponent_exponentText (ends : EndsValue rest) :
    skipExponent (exponentText exponent ++ rest) = .ok rest := by
  cases exponent with
  | none =>
    apply ends.cases_on_head
    · rfl
    · rintro c more (rfl | rfl | rfl) <;> rfl
  | some power =>
    simp only [exponentText, List.cons_append, skipExponent, splitSign_signedDigits]
    exact skipDigits_append (digits_ne_nil _) (fun _ => isDigit_of_mem_digits) ends.endsDigits

/-- A zero in front is followed by no other digit. -/
theorem no_leading_zero (isWhole : IsWhole whole) (after : EndsDigits rest) :
    ((whole ++ rest).head? == some '0' && ((whole ++ rest).drop 1).head?.any Char.isDigit) =
      false := by
  obtain ⟨something, -, plain⟩ := isWhole
  cases whole with
  | nil => exact absurd rfl something
  | cons c more =>
    by_cases zero : c = '0'
    · have alone : more = [] := by simpa [zero] using plain
      rw [alone, List.singleton_append, List.drop_one, List.tail_cons]
      cases rest with
      | nil => simp
      | cons d others => simp [after d rfl]
    · simp [zero]

/-- A number is passed over up to its last character. -/
theorem skipNumber_written (isWhole : IsWhole whole)
    (digit : ∀ c ∈ fraction, c.isDigit = true) (ends : EndsValue rest) :
    skipNumber (whole ++ (fractionText fraction ++ (exponentText exponent ++ rest))) =
      .ok rest := by
  have after := @endsDigits_fractionText fraction rest exponent ends
  rw [skipNumber, no_leading_zero isWhole after, skipDigits_append isWhole.1 isWhole.2.1 after]
  simp only [bind, Except.bind, Bool.false_eq_true, if_false]
  cases fraction with
  | nil =>
    cases exponent with
    | none =>
      apply ends.cases_on_head
      · rfl
      · rintro c more (rfl | rfl | rfl) <;> rfl
    | some power => exact skipExponent_exponentText ends
  | cons d others =>
    have skipped := skipDigits_append (List.cons_ne_nil d others) digit
      (@endsDigits_exponentText rest exponent ends)
    simp only [List.cons_append] at skipped
    simp only [fractionText, List.isEmpty_cons, Bool.false_eq_true, if_false, List.cons_append,
      skipped, skipExponent_exponentText ends]

theorem isWhole_digits (n : Nat) : IsWhole (digits n) := by
  refine ⟨digits_ne_nil n, fun _ => isDigit_of_mem_digits, fun zero => ?_⟩
  obtain rfl | something := Nat.eq_zero_or_pos n
  · rfl
  · exact absurd zero (head?_digits_ne_zero something)

end Numbers

section Written

variable {body rest : List Char} {d : Binary64.Decimals}

/-- Digits with a point or a power of ten behind which a decimal stands. -/
def Denotes (body : List Char) (d : Binary64.Decimals) : Prop :=
  ∃ whole fraction exponent, body = whole ++ (fractionText fraction ++ exponentText exponent) ∧
    IsWhole whole ∧ (∀ c ∈ fraction, c.isDigit = true) ∧
    (fraction.isEmpty && exponent.isNone) = false ∧
    ∀ negative, nearest negative whole fraction exponent =
      .ofDecimal negative d.mantissa d.power

/-- What is read for them is the float that the reader makes of them, whatever follows. -/
theorem Denotes.exists_read (denotes : Denotes body d) (float : FloatOf) (negative : Bool) :
    ∃ y : Binary64, (float = nearest → y = .ofDecimal negative d.mantissa d.power) ∧
      ∀ {rest}, EndsValue rest → readNumber float negative (body ++ rest) =
        if y.isFinite then .ok (.real y, rest) else .error .numberOutOfRange := by
  obtain ⟨whole, fraction, exponent, rfl, isWhole, digit, pointed, value⟩ := denotes
  refine ⟨float negative whole fraction exponent, fun exact => exact ▸ value negative,
    fun ends => ?_⟩
  rw [List.append_assoc, List.append_assoc, readNumber_written isWhole digit ends, pointed]
  rfl

theorem Denotes.skipNumber_append (denotes : Denotes body d) (ends : EndsValue rest) :
    skipNumber (body ++ rest) = .ok rest := by
  obtain ⟨whole, fraction, exponent, rfl, isWhole, digit, -, -⟩ := denotes
  rw [List.append_assoc, List.append_assoc, skipNumber_written isWhole digit ends]

theorem ofDecimal_zero (negative : Bool) (power : Int) :
    Binary64.ofDecimal negative 0 power = .ofMagnitudeBits negative 0 := by
  simp [Binary64.ofDecimal]

theorem denotes_zero (power : Int) : Denotes ['0', '.', '0'] ⟨0, power⟩ := by
  refine ⟨['0'], ['0'], none, rfl, isWhole_digits 0, List.forall_mem_singleton.mpr rfl, rfl,
    fun negative => ?_⟩
  have value : ofDigits (['0'] ++ ['0']) = 0 := rfl
  rw [nearest, value, ofDecimal_zero, ofDecimal_zero]

/-- Digits of a decimal, written with a point and a power of ten that leave its value as it is. -/
theorem denotes_of_value {whole fraction : List Char} {exponent : Option Int}
    (isWhole : IsWhole whole) (digit : ∀ c ∈ fraction, c.isDigit = true)
    (pointed : (fraction.isEmpty && exponent.isNone) = false) (something : 0 < d.mantissa) (zeros : Nat)
    (mantissa : ofDigits (whole ++ fraction) = d.mantissa * 10 ^ zeros)
    (power : exponent.getD 0 - fraction.length = d.power - zeros) :
    Denotes (whole ++ (fractionText fraction ++ exponentText exponent)) d := by
  refine ⟨whole, fraction, exponent, rfl, isWhole, digit, pointed, fun negative => ?_⟩
  have positive : 0 < d.mantissa * 10 ^ zeros := Nat.mul_pos something (Nat.pow_pos (by decide))
  rw [nearest, mantissa, power]
  apply Binary64.ofDecimal_congr positive something
  push_cast
  rw [zpow_sub₀ (by norm_num), zpow_natCast, mul_assoc, mul_div_cancel₀ _ (by positivity)]

theorem isWhole_digits_append {n : Nat} (something : 0 < n) {more : List Char}
    (digit : ∀ c ∈ more, c.isDigit = true) : IsWhole (digits n ++ more) := by
  refine ⟨List.append_ne_nil_of_left_ne_nil (digits_ne_nil n) _, ?_, ?_⟩
  · intro c member
    obtain inside | inside := List.mem_append.mp member
    · exact isDigit_of_mem_digits inside
    · exact digit c inside
  · intro zero
    rw [List.head?_append_of_ne_nil _ (digits_ne_nil n)] at zero
    exact absurd zero (head?_digits_ne_zero something)

/-- All digits stand behind the point. -/
theorem denotes_below_one (something : 0 < d.mantissa)
    (small : ((digits d.mantissa).length : Int) + d.power ≤ 0) :
    Denotes (Binary64.positional (digits d.mantissa) ((digits d.mantissa).length + d.power)) d := by
  obtain ⟨zeros, count⟩ : ∃ zeros : Nat, -(((digits d.mantissa).length : Int) + d.power) = zeros :=
    ⟨_, (Int.toNat_of_nonneg (by omega)).symm⟩
  have filled : (List.replicate zeros '0' ++ digits d.mantissa).isEmpty = false := by
    simp [digits_ne_nil]
  have text : Binary64.positional (digits d.mantissa) ((digits d.mantissa).length + d.power) =
      ['0'] ++ (fractionText (List.replicate zeros '0' ++ digits d.mantissa) ++
        exponentText none) := by
    rw [Binary64.positional, if_pos small, count, Int.toNat_natCast, fractionText, filled]
    simp [exponentText]
  rw [text]
  apply @denotes_of_value d ['0'] _ _ (isWhole_digits 0) _ (by rw [filled]; rfl) something 0
  · have value : ofDigits (['0'] ++ (List.replicate zeros '0' ++ digits d.mantissa)) =
        ofDigits (digits d.mantissa) := by
      rw [ofDigits, Nat.ofDigitChars_append, Nat.ofDigitChars_append,
        Nat.ofDigitChars_replicate_zero]
      rfl
    rw [value, ofDigits_digits, Nat.pow_zero, Nat.mul_one]
  · simp only [Option.getD_none, List.length_append, List.length_replicate]
    omega
  · intro c member
    obtain inside | inside := List.mem_append.mp member
    · exact isDigit_of_mem_zeros inside
    · exact isDigit_of_mem_digits inside

/-- A whole number is written out, and a zero behind the point. -/
theorem denotes_whole (something : 0 < d.mantissa) (large : 0 ≤ d.power) :
    Denotes (Binary64.positional (digits d.mantissa) ((digits d.mantissa).length + d.power) ++
      ['.', '0']) d := by
  obtain ⟨zeros, count⟩ := Int.eq_ofNat_of_zero_le large
  have some_digit := List.length_pos_of_ne_nil (digits_ne_nil d.mantissa)
  have text : Binary64.positional (digits d.mantissa) ((digits d.mantissa).length + d.power) =
      digits d.mantissa ++ List.replicate zeros '0' := by
    have places : (((digits d.mantissa).length : Int) + d.power).toNat =
        (digits d.mantissa).length + zeros := by omega
    rw [Binary64.positional, if_neg (by omega), if_pos (by omega), places, Nat.add_sub_cancel_left]
  rw [text]
  apply @denotes_of_value d _ ['0'] none
    (isWhole_digits_append something fun _ => isDigit_of_mem_zeros)
    (List.forall_mem_singleton.mpr rfl) rfl something (zeros + 1)
  · have value : digits d.mantissa ++ List.replicate zeros '0' ++ ['0'] =
        digits d.mantissa ++ List.replicate (zeros + 1) '0' := by
      rw [List.replicate_succ', List.append_assoc]
    rw [value, ofDigits_append_zeros]
  · simp only [Option.getD_none, List.length_singleton]
    omega

theorem ofDigits_take_append_drop (k n : Nat) :
    ofDigits ((digits n).take k ++ (digits n).drop k) = n := by
  rw [List.take_append_drop, ofDigits_digits]

/-- The first digits of a number stand before the point, the others behind it. -/
theorem isWhole_take {n k : Nat} (something : 0 < n) (some_digit : 0 < k) :
    IsWhole ((digits n).take k) := by
  have nonempty := digits_ne_nil n
  have first := head?_digits_ne_zero something
  cases written : digits n with
  | nil => exact absurd written nonempty
  | cons c more =>
    obtain ⟨k, rfl⟩ := Nat.exists_eq_succ_of_ne_zero (by omega : k ≠ 0)
    rw [written] at first
    refine ⟨by simp, fun c member => ?_, fun zero => ?_⟩
    · rw [← written] at member
      exact isDigit_of_mem_digits (List.mem_of_mem_take member)
    · exact absurd (by simpa using zero) first

theorem denotes_cut (something : 0 < d.mantissa) {k : Nat} {exponent : Option Int}
    (some_digit : 0 < k) (pointed : k < (digits d.mantissa).length ∨ exponent.isNone = false)
    (power : exponent.getD 0 - ((digits d.mantissa).length - k : Nat) = d.power) :
    Denotes ((digits d.mantissa).take k ++ (fractionText ((digits d.mantissa).drop k) ++
      exponentText exponent)) d := by
  apply denotes_of_value (isWhole_take something some_digit)
    (fun c member => isDigit_of_mem_digits (List.mem_of_mem_drop member)) _ something 0
  · rw [ofDigits_take_append_drop, Nat.pow_zero, Nat.mul_one]
  · rw [List.length_drop, power]
    simp
  · rw [Bool.and_eq_false_iff]
    refine pointed.imp (fun cut => ?_) id
    rw [List.isEmpty_eq_false_iff, ← List.length_pos_iff_ne_nil, List.length_drop]
    omega

/-- The point stands between two digits. -/
theorem denotes_between (something : 0 < d.mantissa)
    (low : 0 < ((digits d.mantissa).length : Int) + d.power) (small : d.power < 0) :
    Denotes (Binary64.positional (digits d.mantissa) ((digits d.mantissa).length + d.power)) d := by
  obtain ⟨k, places⟩ := Int.eq_ofNat_of_zero_le (Int.le_of_lt low)
  have cut := @denotes_cut d something k none (by omega)
    (.inl (by omega)) (by simp only [Option.getD_none]; omega)
  have rest : ((digits d.mantissa).drop k).isEmpty = false := by
    rw [List.isEmpty_eq_false_iff, ← List.length_pos_iff_ne_nil, List.length_drop]
    omega
  have text : Binary64.positional (digits d.mantissa) ((digits d.mantissa).length + d.power) =
      (digits d.mantissa).take k ++ (fractionText ((digits d.mantissa).drop k) ++
        exponentText none) := by
    rw [Binary64.positional, if_neg (by omega), places, Int.toNat_natCast, if_neg (by omega),
      fractionText, rest]
    simp [exponentText]
  rw [text]
  exact cut

/-- Without a power of ten a decimal is written with a point, or a zero is put behind one. -/
theorem denotes_positional (something : 0 < d.mantissa) {text : List Char}
    (written : text =
      Binary64.positional (digits d.mantissa) ((digits d.mantissa).length + d.power)) :
    Denotes (if text.contains '.' then text else text ++ ['.', '0']) d := by
  by_cases large : 0 ≤ d.power
  · have plain : text.contains '.' = false := by
      rw [written, Binary64.positional, if_neg, if_pos (by omega), List.contains_eq_mem,
        decide_eq_false_iff_not, List.mem_append]
      · rintro (inside | inside)
        · exact absurd (isDigit_of_mem_digits inside) (by decide)
        · exact absurd (isDigit_of_mem_zeros inside) (by decide)
      · have some_digit := List.length_pos_of_ne_nil (digits_ne_nil d.mantissa)
        omega
    rw [plain, if_neg Bool.false_ne_true, written]
    exact denotes_whole something large
  · have pointed : text.contains '.' = true := by
      rw [written, List.contains_iff_mem, Binary64.positional]
      split
      · exact List.mem_cons_of_mem _ List.mem_cons_self
      · rw [if_neg (by omega)]
        exact List.mem_append_right _ List.mem_cons_self
    rw [pointed, if_pos rfl, written]
    by_cases small : ((digits d.mantissa).length : Int) + d.power ≤ 0
    · exact denotes_below_one something small
    · exact denotes_between something (by omega) (by omega)

/-- With a power of ten the point stands behind the first digit, if there is another one. -/
theorem denotes_scientific (something : 0 < d.mantissa) {first second : Char} {rest : List Char}
    (written : digits d.mantissa = first :: second :: rest) :
    Denotes (first :: '.' :: second :: rest ++
      'e' :: signedDigits ((digits d.mantissa).length + d.power - 1)) d := by
  have cut := @denotes_cut d something 1 (some ((digits d.mantissa).length + d.power - 1))
    Nat.one_pos (.inr rfl)
    (by rw [Option.getD_some, written, List.length_cons]; omega)
  simpa [written, fractionText, exponentText] using cut

theorem denotes_single (something : 0 < d.mantissa) {first : Char}
    (written : digits d.mantissa = [first]) :
    Denotes (digits d.mantissa ++ 'e' :: signedDigits ((digits d.mantissa).length + d.power - 1))
      d := by
  have cut := @denotes_cut d something 1 (some ((digits d.mantissa).length + d.power - 1))
    Nat.one_pos (.inr rfl)
    (by rw [Option.getD_some, written, List.length_singleton]; omega)
  simpa [written, fractionText, exponentText] using cut

/-- A finite number is written as the digits of a decimal that is rounded to it. -/
theorem exists_denotes {x : Binary64} (finite : x.isFinite = true) :
    ∃ body d, x.toDocumentText.toList = (if x.isNegative then '-' :: body else body) ∧
      Denotes body d ∧ .ofDecimal x.isNegative d.mantissa d.power = x := by
  unfold Binary64.toDocumentText
  by_cases zero : x.magnitudeBits = 0
  · refine ⟨['0', '.', '0'], ⟨0, 0⟩, ?_, denotes_zero 0, ?_⟩
    · simp only [if_pos zero, String.toList_ofList]
    · rw [ofDecimal_zero, ← zero]
      exact x.withSign_self
  · have something := (Binary64.readsBack_shortest finite zero .even).2
    have back := Binary64.ofDecimal_shortest finite zero .even
    generalize x.shortest .even = d at something back
    simp only [if_neg zero, String.toList_ofList]
    refine ⟨_, d, rfl, ?_, back⟩
    split
    · exact denotes_positional something rfl
    · split
      · rename_i first second rest written
        exact denotes_scientific something written
      · rename_i single
        cases written : digits d.mantissa with
        | nil => exact absurd written (digits_ne_nil _)
        | cons first more =>
          cases more with
          | nil =>
            rw [← written]
            exact denotes_single something written
          | cons second rest => exact absurd written (single first second rest)

end Written

end SqlScribe.Json

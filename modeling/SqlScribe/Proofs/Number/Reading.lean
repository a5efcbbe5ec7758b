import SqlScribe.Number.Decimal.Text
import SqlScribe.Number.Integer
import SqlScribe.Proofs.Text.Digits

/-!
# Numbers that are written and read

An integer and an amount of money are read from their own digits, an amount with all its places.
-/

namespace SqlScribe

open SqlScribe.Text

namespace Text

/-- Without a sign in front all of a text is left. -/
theorem splitSign_of_digit {c : Char} (digit : c.isDigit = true) (rest : List Char) :
    splitSign (c :: rest) = (false, c :: rest) := by
  unfold splitSign
  split
  · rename_i same
    cases same
    cases digit
  · rename_i same
    cases same
    cases digit
  · rfl

theorem exists_digits (n : Nat) : ∃ c rest, digits n = c :: rest ∧ c.isDigit = true := by
  cases written : digits n with
  | nil => exact absurd written (digits_ne_nil n)
  | cons c rest =>
    have member : c ∈ digits n := by
      rw [written]
      exact List.mem_cons_self
    exact ⟨c, rest, rfl, isDigit_of_mem_digits member⟩

/-- What is split off a signed text is its sign. -/
theorem splitSign_signed (negative : Bool) {c : Char} (digit : c.isDigit = true)
    (rest : List Char) :
    splitSign ((if negative then ['-'] else []) ++ c :: rest) = (negative, c :: rest) := by
  cases negative with
  | true => rfl
  | false => exact splitSign_of_digit digit rest

theorem signedDigits_eq (n : Int) :
    signedDigits n = (if decide (n < 0) then ['-'] else []) ++ digits n.natAbs := by
  unfold signedDigits
  by_cases below : n < 0 <;> simp [below]

theorem readSigned?_signedDigits (n : Int) : readSigned? (signedDigits n) = some n := by
  have every : (digits n.natAbs).all Char.isDigit = true :=
    List.all_eq_true.mpr fun c member => isDigit_of_mem_digits member
  have read := ofDigits_digits n.natAbs
  obtain ⟨c, rest, written, digit⟩ := exists_digits n.natAbs
  rw [written] at every read
  rw [signedDigits_eq, written, readSigned?, splitSign_signed _ digit]
  simp only [List.isEmpty_cons, every, Bool.not_true, Bool.or_self, Bool.false_eq_true, if_false,
    read, decide_eq_true_eq, Option.some.injEq]
  split <;> omega

end Text

/-- An integer is read from its numeral. -/
theorem readInt64?_numeral (n : Int64) : readInt64? (numeral n.toInt) = some n := by
  rw [readInt64?, numeral, String.toList_ofList, readSigned?_signedDigits]
  exact fitInt64?_toInt n

namespace Decimal

/-- The digits before the point. -/
def wholeDigits (d : Decimal) : List Char :=
  let ds := paddedDigits (d.scale + 1) d.mantissa
  ds.take (ds.length - d.scale)

/-- The digits behind the point. -/
def placeDigits (d : Decimal) : List Char :=
  let ds := paddedDigits (d.scale + 1) d.mantissa
  ds.drop (ds.length - d.scale)

theorem wholeDigits_append_placeDigits (d : Decimal) :
    d.wholeDigits ++ d.placeDigits = paddedDigits (d.scale + 1) d.mantissa :=
  List.take_append_drop _ _

theorem toChars_eq (d : Decimal) :
    d.toChars = (if d.negative then ['-'] else []) ++
      (d.wholeDigits ++ if d.scale = 0 then [] else '.' :: d.placeDigits) := by
  have body : (if d.scale = 0 then paddedDigits (d.scale + 1) d.mantissa
      else d.wholeDigits ++ '.' :: d.placeDigits) =
      d.wholeDigits ++ if d.scale = 0 then [] else '.' :: d.placeDigits := by
    by_cases whole : d.scale = 0
    · simp [whole, wholeDigits]
    · simp [whole]
  rw [← body]
  unfold toChars
  cases d.negative <;> rfl

theorem scale_lt_length (d : Decimal) :
    d.scale < (paddedDigits (d.scale + 1) d.mantissa).length := by
  rw [paddedDigits, List.length_append, List.length_replicate]
  omega

theorem length_placeDigits (d : Decimal) : d.placeDigits.length = d.scale := by
  have longer := d.scale_lt_length
  rw [placeDigits, List.length_drop]
  omega

theorem wholeDigits_ne_nil (d : Decimal) : d.wholeDigits ≠ [] := by
  have longer := d.scale_lt_length
  intro nothing
  have none_left := congrArg List.length nothing
  rw [wholeDigits, List.length_take, List.length_nil] at none_left
  omega

theorem isDigit_of_mem_paddedDigits {width n : Nat} {c : Char} (member : c ∈ paddedDigits width n) :
    c.isDigit = true := by
  obtain zero | digit := List.mem_append.mp member
  · rw [List.eq_of_mem_replicate zero]
    rfl
  · exact isDigit_of_mem_digits digit

theorem isDigit_of_mem_wholeDigits {d : Decimal} {c : Char} (member : c ∈ d.wholeDigits) :
    c.isDigit = true := isDigit_of_mem_paddedDigits (List.mem_of_mem_take member)

theorem isDigit_of_mem_placeDigits {d : Decimal} {c : Char} (member : c ∈ d.placeDigits) :
    c.isDigit = true := isDigit_of_mem_paddedDigits (List.mem_of_mem_drop member)

theorem ofDigits_paddedDigits (width n : Nat) : ofDigits (paddedDigits width n) = n := by
  rw [ofDigits, paddedDigits, Nat.ofDigitChars_append, Nat.ofDigitChars_replicate_zero]
  exact ofDigits_digits n

/-- Further digits make a number no smaller. -/
theorem le_ofDigitChars (cs : List Char) (n : Nat) : n ≤ Nat.ofDigitChars 10 cs n := by
  rw [Nat.ofDigitChars_eq_ofDigitChars_zero]
  have shifted : 1 * n ≤ 10 ^ cs.length * n :=
    Nat.mul_le_mul_right n (Nat.pos_of_ne_zero (by simp))
  omega

/-- Digits that fit are read one after the other; behind the point each is a place. -/
theorem readFrom_digits (negative : Bool) {cs : List Char} (digit : ∀ c ∈ cs, c.isDigit = true)
    (rest : List Char) (seen : Progress)
    (fits : Nat.ofDigitChars 10 cs seen.mantissa < mantissaLimit)
    (places : seen.pastPoint = true → seen.scale + cs.length ≤ 28)
    (whole : seen.pastPoint = false → seen.scale = 0) :
    readFrom negative seen (cs ++ rest) =
      readFrom negative ⟨Nat.ofDigitChars 10 cs seen.mantissa,
        if seen.pastPoint then seen.scale + cs.length else 0, seen.pastPoint,
        seen.anyDigit || !cs.isEmpty⟩ rest := by
  -- Later digits only add to the mantissa: if it fits at the end, it fits at every step.
  induction cs generalizing seen with
  | nil =>
    obtain ⟨mantissa, scale, pastPoint, anyDigit⟩ := seen
    cases pastPoint with
    | true => simp [Nat.ofDigitChars_nil]
    | false =>
      obtain rfl : scale = 0 := whole rfl
      simp [Nat.ofDigitChars_nil]
  | cons c cs ih =>
    obtain ⟨mantissa, scale, pastPoint, anyDigit⟩ := seen
    dsimp only at fits places whole ⊢
    rw [Nat.ofDigitChars_cons] at fits
    have first : c.isDigit = true := digit c List.mem_cons_self
    have step : 10 * mantissa + (c.toNat - '0'.toNat) = mantissa * 10 + (c.toNat - 48) := by
      rw [Nat.mul_comm]
      rfl
    rw [step] at fits
    have small : mantissa * 10 + (c.toNat - 48) < mantissaLimit :=
      Nat.lt_of_le_of_lt (le_ofDigitChars cs _) fits
    have room : (pastPoint && decide (28 ≤ scale)) = false := by
      cases pastPoint with
      | false => rfl
      | true =>
        have bound := places rfl
        rw [List.length_cons] at bound
        simp only [Bool.true_and, decide_eq_false_iff_not]
        omega
    rw [List.cons_append, readFrom]
    simp only [room, first, small, if_true, Bool.false_eq_true, if_false]
    rw [ih (fun d member => digit d (List.mem_cons_of_mem c member)) _ fits]
    · rw [Nat.ofDigitChars_cons, step]
      cases pastPoint <;> simp [Nat.add_assoc, Nat.add_comm 1]
    · intro past
      obtain rfl : pastPoint = true := past
      have bound := places rfl
      rw [List.length_cons] at bound
      simp only [if_true]
      omega
    · intro before
      obtain rfl : pastPoint = false := before
      rfl

theorem of?_parts (d : Decimal) : of? d.negative d.mantissa d.scale = some d := by
  have bounds : d.mantissa < mantissaLimit ∧ d.scale ≤ 28 := ⟨d.mantissa_lt, d.scale_le⟩
  have sign : (d.negative && d.mantissa != 0) = d.negative := by
    by_cases zero : d.mantissa = 0
    · simp [d.negative_zero zero]
    · simp [zero]
  rw [of?, dif_pos bounds]
  simp only [sign]

/-- The places carry on where the whole digits end. -/
theorem ofDigitChars_placeDigits (d : Decimal) :
    Nat.ofDigitChars 10 d.placeDigits (ofDigits d.wholeDigits) = d.mantissa := by
  rw [ofDigits, ← Nat.ofDigitChars_append, wholeDigits_append_placeDigits]
  exact ofDigits_paddedDigits _ _

theorem splitSign_toChars (d : Decimal) :
    splitSign d.toChars =
      (d.negative, d.wholeDigits ++ if d.scale = 0 then [] else '.' :: d.placeDigits) := by
  rw [toChars_eq]
  cases written : d.wholeDigits with
  | nil => exact absurd written d.wholeDigits_ne_nil
  | cons c others =>
    have member : c ∈ d.wholeDigits := by
      rw [written]
      exact List.mem_cons_self
    exact splitSign_signed d.negative (isDigit_of_mem_wholeDigits member) _

theorem readFrom_wholeDigits (d : Decimal) (rest : List Char) :
    readFrom d.negative ⟨0, 0, false, false⟩ (d.wholeDigits ++ rest) =
      readFrom d.negative ⟨ofDigits d.wholeDigits, 0, false, true⟩ rest := by
  have grows := le_ofDigitChars d.placeDigits (ofDigits d.wholeDigits)
  have small := d.mantissa_lt
  rw [ofDigitChars_placeDigits] at grows
  have fits : ofDigits d.wholeDigits < mantissaLimit := Nat.lt_of_le_of_lt grows small
  have something : d.wholeDigits.isEmpty = false := by simp [d.wholeDigits_ne_nil]
  have read := readFrom_digits d.negative (fun _ => isDigit_of_mem_wholeDigits) rest
    ⟨0, 0, false, false⟩ fits (fun past => Bool.noConfusion past) (fun _ => rfl)
  rw [read, something]
  rfl

theorem readFrom_placeDigits (d : Decimal) :
    readFrom d.negative ⟨ofDigits d.wholeDigits, 0, true, true⟩ d.placeDigits = some d := by
  have fits : Nat.ofDigitChars 10 d.placeDigits (ofDigits d.wholeDigits) < mantissaLimit := by
    rw [ofDigitChars_placeDigits]
    exact d.mantissa_lt
  have room : 0 + d.placeDigits.length ≤ 28 := by
    rw [length_placeDigits, Nat.zero_add]
    exact d.scale_le
  have read := readFrom_digits d.negative (fun _ => isDigit_of_mem_placeDigits) []
    ⟨ofDigits d.wholeDigits, 0, true, true⟩ fits (fun _ => room)
    (fun before => Bool.noConfusion before)
  rw [List.append_nil, ofDigitChars_placeDigits, length_placeDigits] at read
  rw [read, readFrom]
  simp only [Bool.true_or, if_true, Nat.zero_add]
  exact d.of?_parts

theorem ofChars?_toChars (d : Decimal) : ofChars? d.toChars = some d := by
  rw [ofChars?, splitSign_toChars]
  dsimp only
  rw [readFrom_wholeDigits]
  by_cases whole : d.scale = 0
  · have nothing : d.placeDigits = [] :=
      List.length_eq_zero_iff.mp (d.length_placeDigits.trans whole)
    have read := d.ofDigitChars_placeDigits
    rw [nothing, Nat.ofDigitChars_nil] at read
    rw [if_pos whole, readFrom, if_pos rfl, read, ← whole]
    exact d.of?_parts
  · rw [if_neg whole, readFrom]
    exact d.readFrom_placeDigits

/-- An amount is read from its text, with as many places as were written. -/
theorem ofText?_toText (d : Decimal) : ofText? d.toText = some d := by
  rw [ofText?, toText, String.toList_ofList, ofChars?_toChars]
  rfl

end Decimal

end SqlScribe

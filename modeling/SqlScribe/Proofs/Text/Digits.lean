import Mathlib.Algebra.Ring.Nat
import Mathlib.Data.List.Basic
import SqlScribe.Text.Blank
import SqlScribe.Text.Letters
import SqlScribe.Text.Numeral
import SqlScribe.Text.Pieces

/-!
# Digits that are written and read

What is written in digits holds neither blanks nor quotes nor braces, and hexadecimal digits read
back as the bytes they were written for.
-/

namespace SqlScribe.Text

/-- A character from the hyphen to the letter z: those of numbers and of identifiers without braces
are. -/
def IsPlain (c : Char) : Prop := 45 ≤ c.toNat ∧ c.toNat ≤ 122

namespace IsPlain

variable {c : Char}

theorem not_blank (h : IsPlain c) : isBlank c = false := by
  obtain ⟨low, high⟩ := h
  simp only [isBlank, Bool.or_eq_false_iff, Bool.and_eq_false_iff, decide_eq_false_iff_not,
    beq_eq_false_iff_ne]
  omega

theorem ne_of_toNat {other : Char} (outside : other.toNat < 45 ∨ 122 < other.toNat)
    (h : IsPlain c) : c ≠ other := by
  rintro rfl
  obtain ⟨low, high⟩ := h
  omega

theorem utf8Size (h : IsPlain c) : c.utf8Size = 1 := by
  have small : c.toNat ≤ 127 := Nat.le_trans h.2 (by decide)
  exact Char.utf8Size_eq_one_iff.mpr small

end IsPlain

theorem isPlain_of_isDigit {c : Char} (h : c.isDigit = true) : IsPlain c := by
  simp only [Char.isDigit, Bool.and_eq_true, decide_eq_true_eq, ge_iff_le, UInt32.le_iff_toNat_le]
    at h
  exact ⟨Nat.le_trans (by decide) h.1, Nat.le_trans h.2 (by decide)⟩

theorem isPlain_of_isHexDigit {c : Char} (h : isHexDigit c = true) : IsPlain c := by
  simp only [isHexDigit, Bool.or_eq_true, Bool.and_eq_true, decide_eq_true_eq, Char.le_def,
    UInt32.le_iff_toNat_le] at h
  obtain (digit | lower) | upper := h
  · exact isPlain_of_isDigit digit
  · exact ⟨Nat.le_trans (by decide) lower.1, Nat.le_trans lower.2 (by decide)⟩
  · exact ⟨Nat.le_trans (by decide) upper.1, Nat.le_trans upper.2 (by decide)⟩

theorem byteLength_of_plain {cs : List Char} (plain : ∀ c ∈ cs, IsPlain c) :
    byteLength cs = cs.length := by
  induction cs with
  | nil => rfl
  | cons c rest ih =>
    have others := ih fun d member => plain d (List.mem_cons_of_mem c member)
    have first := (plain c List.mem_cons_self).utf8Size
    rw [byteLength, ← List.singleton_append, String.ofList_append, String.utf8ByteSize_append]
    rw [byteLength] at others
    rw [others, List.length_append, List.length_singleton]
    simp [first]

section Strip

variable {α : Type} {drops : α → Bool} {xs : List α}

theorem dropWhile_eq_self (first : ∀ a, xs.head? = some a → drops a = false) :
    xs.dropWhile drops = xs := by
  cases xs with
  | nil => rfl
  | cons a rest => simp [first a rfl]

/-- All of the first list is taken, and nothing of what follows. -/
theorem takeWhile_append_of_ends {rest : List α} (inside : ∀ a ∈ xs, drops a = true)
    (ends : ∀ a, rest.head? = some a → drops a = false) : (xs ++ rest).takeWhile drops = xs := by
  rw [List.takeWhile_append_of_pos inside]
  cases rest with
  | nil => exact List.append_nil xs
  | cons a more => rw [List.takeWhile_cons_of_neg (by simp [ends a rfl]), List.append_nil]

theorem dropWhile_append_of_ends {rest : List α} (inside : ∀ a ∈ xs, drops a = true)
    (ends : ∀ a, rest.head? = some a → drops a = false) :
    (xs ++ rest).dropWhile drops = rest := by
  rw [List.dropWhile_append_of_pos inside]
  exact dropWhile_eq_self ends

theorem strip_eq_self (first : ∀ a, xs.head? = some a → drops a = false)
    (last : ∀ a, xs.getLast? = some a → drops a = false) : strip drops xs = xs := by
  rw [strip, dropWhile_eq_self first, dropWhile_eq_self, List.reverse_reverse]
  rwa [List.head?_reverse]

/-- What stands between two elements that are dropped is left. -/
theorem strip_wrapped {a z : α} (before : drops a = true) (after : drops z = true)
    (something : xs ≠ []) (first : ∀ a, xs.head? = some a → drops a = false)
    (last : ∀ a, xs.getLast? = some a → drops a = false) :
    strip drops (a :: (xs ++ [z])) = xs := by
  have from_left : (a :: (xs ++ [z])).dropWhile drops = xs ++ [z] := by
    rw [List.dropWhile_cons_of_pos before]
    apply dropWhile_eq_self
    rwa [List.head?_append_of_ne_nil xs something]
  have from_right : (z :: xs.reverse).dropWhile drops = xs.reverse := by
    rw [List.dropWhile_cons_of_pos after]
    apply dropWhile_eq_self
    rwa [List.head?_reverse]
  rw [strip, from_left, List.reverse_append, List.reverse_singleton, List.singleton_append,
    from_right, List.reverse_reverse]

end Strip

theorem strip_of_plain {cs : List Char} (plain : ∀ c ∈ cs, IsPlain c) : strip isBlank cs = cs := by
  apply strip_eq_self
  · intro c first
    exact (plain c (List.mem_of_mem_head? first)).not_blank
  · intro c last
    exact (plain c (List.mem_of_mem_getLast? last)).not_blank

theorem trim_of_plain {s : String} (plain : ∀ c ∈ s.toList, IsPlain c) : trim s = s := by
  rw [trim, strip_of_plain plain, String.ofList_toList]

theorem digits_ne_nil (n : Nat) : digits n ≠ [] := Nat.toDigits_ne_nil

theorem isDigit_of_mem_digits {n : Nat} {c : Char} (member : c ∈ digits n) : c.isDigit = true :=
  Nat.isDigit_of_mem_toDigits (by decide) (by decide) member

/-- The digits of a number other than zero do not begin with a zero. -/
theorem head?_digits_ne_zero {n : Nat} (something : 0 < n) : (digits n).head? ≠ some '0' := by
  induction n using Nat.strongRecOn with
  | ind n ih =>
    unfold digits
    obtain small | large := Nat.lt_or_ge n 10
    · rw [Nat.toDigits_of_lt_base small]
      have nonzero : ∀ k < 10, 0 < k → Nat.digitChar k ≠ '0' := by decide
      simpa using nonzero n small something
    · rw [Nat.toDigits_of_base_le (by decide) large,
        List.head?_append_of_ne_nil _ Nat.toDigits_ne_nil]
      exact ih (n / 10) (by omega) (by omega)

theorem ofDigits_append_zeros (n zeros : Nat) :
    ofDigits (digits n ++ List.replicate zeros '0') = n * 10 ^ zeros := by
  rw [ofDigits, Nat.ofDigitChars_append, Nat.ofDigitChars_replicate_zero]
  rw [← ofDigits, ofDigits_digits, Nat.mul_comm]

theorem isDigit_of_mem_zeros {zeros : Nat} {c : Char} (member : c ∈ List.replicate zeros '0') :
    c.isDigit = true := by
  rw [List.eq_of_mem_replicate member]
  rfl

/-- A text that does not go on with a digit. -/
def EndsDigits (rest : List Char) : Prop := ∀ c, rest.head? = some c → c.isDigit = false

theorem endsDigits_nil : EndsDigits [] := fun _ first => nomatch first

theorem endsDigits_cons {c : Char} (other : c.isDigit = false) (rest : List Char) :
    EndsDigits (c :: rest) := by
  rintro _ ⟨⟩
  exact other

theorem takeWhile_digits {ds rest : List Char} (digit : ∀ c ∈ ds, c.isDigit = true)
    (ends : EndsDigits rest) : (ds ++ rest).takeWhile Char.isDigit = ds :=
  takeWhile_append_of_ends digit ends

theorem dropWhile_digits {ds rest : List Char} (digit : ∀ c ∈ ds, c.isDigit = true)
    (ends : EndsDigits rest) : (ds ++ rest).dropWhile Char.isDigit = rest :=
  dropWhile_append_of_ends digit ends

section Hex

variable {digit : Nat → Char}

/-- Each byte as two digits. -/
theorem hexBytes_pairs (value : ∀ n < 16, hexValue (digit n) = n) (bytes : List UInt8) :
    hexBytes (bytes.flatMap fun b => [digit (b.toNat / 16), digit (b.toNat % 16)]) = bytes := by
  induction bytes with
  | nil => rfl
  | cons b rest ih =>
    have small := b.toNat_lt
    have high := value (b.toNat / 16) (by omega)
    have low := value (b.toNat % 16) (by omega)
    have whole : b.toNat / 16 * 16 + b.toNat % 16 = b.toNat := by omega
    simp only [List.flatMap_cons, List.cons_append, List.nil_append, hexBytes, high, low, whole,
      UInt8.ofNat_toNat, ih]

theorem isHexDigit_of_mem_pairs (hex : ∀ n < 16, isHexDigit (digit n) = true)
    {bytes : List UInt8} {c : Char}
    (member : c ∈ bytes.flatMap fun b => [digit (b.toNat / 16), digit (b.toNat % 16)]) :
    isHexDigit c = true := by
  obtain ⟨b, -, found⟩ := List.mem_flatMap.mp member
  have small := b.toNat_lt
  rw [List.mem_pair] at found
  obtain rfl | rfl := found
  · exact hex _ (by omega)
  · exact hex _ (by omega)

end Hex

theorem hexBytes_upperHex (bytes : List UInt8) : hexBytes (upperHex bytes) = bytes :=
  hexBytes_pairs (by decide) bytes

theorem hexBytes_lowerHex (bytes : List UInt8) : hexBytes (lowerHex bytes) = bytes :=
  hexBytes_pairs (by decide) bytes

theorem isHexDigit_of_mem_upperHex {bytes : List UInt8} {c : Char} (member : c ∈ upperHex bytes) :
    isHexDigit c = true := isHexDigit_of_mem_pairs (by decide) member

theorem isHexDigit_of_mem_lowerHex {bytes : List UInt8} {c : Char} (member : c ∈ lowerHex bytes) :
    isHexDigit c = true := isHexDigit_of_mem_pairs (by decide) member

theorem length_upperHex (bytes : List UInt8) : (upperHex bytes).length = 2 * bytes.length := by
  simp [upperHex, List.length_flatMap, Nat.mul_comm]

theorem length_lowerHex (bytes : List UInt8) : (lowerHex bytes).length = 2 * bytes.length := by
  simp [lowerHex, List.length_flatMap, Nat.mul_comm]

end SqlScribe.Text

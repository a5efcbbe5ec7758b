import SqlScribe.Proofs.Text.Digits
import SqlScribe.Value.Conversion

/-!
# Identifiers that are written and read

An identifier is read from its text, with braces around it or without.
-/

namespace SqlScribe

open SqlScribe.Text

namespace Guid

/-- Five groups are read as the digits in them. -/
theorem ofGroups?_append {a b c d e : List Char} (first : a.length = 8) (second : b.length = 4)
    (third : c.length = 4) (fourth : d.length = 4) :
    ofGroups? (a ++ '-' :: b ++ '-' :: c ++ '-' :: d ++ '-' :: e) =
      ofDigits? (a ++ b ++ c ++ d ++ e) := by
  have hyphens : [8, 13, 18, 23].all (fun i =>
      (a ++ '-' :: b ++ '-' :: c ++ '-' :: d ++ '-' :: e)[i]? == some '-') = true := by
    simp [List.getElem?_append, first, second, third, fourth]
  rw [ofGroups?, if_pos hyphens]
  simp [List.drop_append, List.drop_eq_nil_of_le, first, second, third, fourth]

theorem length_digits (g : Guid) : (lowerHex g.bytes).length = 32 := by
  rw [length_lowerHex, g.length_eq]

theorem ofDigits?_lowerHex (g : Guid) : ofDigits? (lowerHex g.bytes) = some g := by
  have hex : (lowerHex g.bytes).all isHexDigit = true :=
    List.all_eq_true.mpr fun _ member => isHexDigit_of_mem_lowerHex member
  have whole : ((lowerHex g.bytes).length = 32 && (lowerHex g.bytes).all isHexDigit) = true := by
    simp [g.length_digits, hex]
  rw [ofDigits?, if_pos whole, hexBytes_lowerHex, of?, dif_pos g.length_eq]

theorem ofGroups?_toChars (g : Guid) : ofGroups? g.toChars = some g := by
  have joined : (lowerHex g.bytes).take 8 ++ ((lowerHex g.bytes).drop 8).take 4 ++
      ((lowerHex g.bytes).drop 12).take 4 ++ ((lowerHex g.bytes).drop 16).take 4 ++
      (lowerHex g.bytes).drop 20 = lowerHex g.bytes := by
    have next (k n : Nat) : ((lowerHex g.bytes).drop k).take n ++ (lowerHex g.bytes).drop (k + n) =
        (lowerHex g.bytes).drop k := by
      rw [← List.drop_drop, List.take_append_drop]
    rw [List.append_assoc, next 16 4, List.append_assoc, next 12 4, List.append_assoc, next 8 4,
      List.take_append_drop]
  have long := g.length_digits
  rw [toChars, ofGroups?_append, joined, ofDigits?_lowerHex]
  all_goals
    rw [List.length_take]
    simp [long]

theorem isPlain_of_mem_toChars {g : Guid} {c : Char} (member : c ∈ g.toChars) : IsPlain c := by
  simp only [toChars, List.mem_append, List.mem_cons] at member
  have hyphen : IsPlain '-' := ⟨by decide, by decide⟩
  have digit (found : c ∈ lowerHex g.bytes) : IsPlain c :=
    isPlain_of_isHexDigit (isHexDigit_of_mem_lowerHex found)
  obtain (((first | rfl | second) | rfl | third) | rfl | fourth) | rfl | last := member
  · exact digit (List.mem_of_mem_take first)
  · exact hyphen
  · exact digit (List.mem_of_mem_drop (List.mem_of_mem_take second))
  · exact hyphen
  · exact digit (List.mem_of_mem_drop (List.mem_of_mem_take third))
  · exact hyphen
  · exact digit (List.mem_of_mem_drop (List.mem_of_mem_take fourth))
  · exact hyphen
  · exact digit (List.mem_of_mem_drop last)

theorem length_toChars (g : Guid) : g.toChars.length = 36 := by
  simp [toChars, g.length_digits]

theorem ofChars?_toChars (g : Guid) : ofChars? g.toChars = some g := by
  have long : byteLength g.toChars = 36 := by
    rw [byteLength_of_plain fun _ => isPlain_of_mem_toChars, length_toChars]
  rw [ofChars?, long]
  exact g.ofGroups?_toChars

end Guid

namespace Value

theorem not_brace_of_mem_toChars {g : Guid} {c : Char} (member : c ∈ g.toChars) :
    (c == '\x7b' || c == '\x7d') = false := by
  have plain := Guid.isPlain_of_mem_toChars member
  have opening : c ≠ '\x7b' := plain.ne_of_toNat (by decide)
  have closing : c ≠ '\x7d' := plain.ne_of_toNat (by decide)
  simp [opening, closing]

theorem readGuid?_toText (g : Guid) : readGuid? g.toText = some g := by
  have unbraced : strip (fun c => c == '\x7b' || c == '\x7d') g.toChars = g.toChars := by
    apply strip_eq_self
    · intro c first
      exact not_brace_of_mem_toChars (List.mem_of_mem_head? first)
    · intro c last
      exact not_brace_of_mem_toChars (List.mem_of_mem_getLast? last)
  rw [readGuid?, Guid.toText, String.toList_ofList,
    strip_of_plain fun _ => Guid.isPlain_of_mem_toChars, unbraced, Guid.ofChars?_toChars]

theorem readGuid?_braced (g : Guid) : readGuid? ("\x7b" ++ g.toText ++ "\x7d") = some g := by
  have braced : ("\x7b" ++ g.toText ++ "\x7d").toList = '\x7b' :: (g.toChars ++ ['\x7d']) := by
    simp [Guid.toText]
  have unblanked : strip isBlank ('\x7b' :: (g.toChars ++ ['\x7d'])) =
      '\x7b' :: (g.toChars ++ ['\x7d']) := by
    apply strip_eq_self
    · rintro c ⟨⟩
      decide
    · intro c last
      rw [← List.cons_append, List.getLast?_concat] at last
      cases last
      decide
  have unbraced : strip (fun c => c == '\x7b' || c == '\x7d')
      ('\x7b' :: (g.toChars ++ ['\x7d'])) = g.toChars := by
    apply strip_wrapped (by decide) (by decide)
    · intro nothing
      have long := g.length_toChars
      rw [nothing] at long
      cases long
    · intro c first
      exact not_brace_of_mem_toChars (List.mem_of_mem_head? first)
    · intro c last
      exact not_brace_of_mem_toChars (List.mem_of_mem_getLast? last)
  rw [readGuid?, braced, unblanked, unbraced, Guid.ofChars?_toChars]

end Value

end SqlScribe

import Mathlib.Data.List.DropRight
import SqlScribe.Proofs.Text.Digits

/-!
# Pieces that are cut out, trimmed and put together

What is cut at a separator holds no separator, so that the pieces come back when they are put
together and cut again. Trimming a second time changes nothing, nor do further blanks around a text,
and the case of letters has no part in it.
-/

namespace SqlScribe.Text

theorem splitChars_eq_splitOn (sep : Char) (cs : List Char) :
    splitChars sep cs = cs.splitOn sep := by
  induction cs with
  | nil => rfl
  | cons c rest ih =>
    rw [splitChars, List.splitOn_cons_eq_if_modifyHead, ih]
    by_cases cut : c = sep
    · simp [cut]
    · simp only [cut, if_false, beq_iff_eq]
      cases pieces : rest.splitOn sep with
      | nil => exact absurd pieces (List.splitOn_ne_nil sep rest)
      | cons piece others => rfl

theorem not_mem_of_mem_splitChars {sep : Char} {cs piece : List Char}
    (member : piece ∈ splitChars sep cs) : sep ∉ piece := by
  induction cs generalizing piece with
  | nil =>
    rw [splitChars, List.mem_singleton] at member
    rw [member]
    exact List.not_mem_nil
  | cons c rest ih =>
    rw [splitChars] at member
    split at member
    · rw [List.mem_cons] at member
      obtain rfl | later := member
      · exact List.not_mem_nil
      · exact ih later
    · rename_i other
      cases pieces : splitChars sep rest with
      | nil => exact absurd pieces (splitChars_ne_nil sep rest)
      | cons first others =>
        simp only [pieces, List.mem_cons] at member ih
        obtain rfl | later := member
        · have inside := ih (.inl rfl)
          rw [List.mem_cons]
          rintro (same | within)
          · exact other same.symm
          · exact inside within
        · exact ih (.inr later)

/-- Pieces without a separator come back when they are put together and cut again. -/
theorem splitAt_join {sep : Char} {pieces : List String} (something : pieces ≠ [])
    (free : ∀ piece ∈ pieces, sep ∉ piece.toList) :
    splitAt sep (join (String.singleton sep) pieces) = pieces := by
  have cut : (join (String.singleton sep) pieces).toList.splitOn sep =
      pieces.map String.toList := by
    rw [join, String.toList_intercalate, String.toList_singleton]
    apply List.splitOn_intercalate
    · rintro cs member
      obtain ⟨piece, inside, rfl⟩ := List.mem_map.mp member
      exact free piece inside
    · simpa using something
  rw [splitAt, splitChars_eq_splitOn, cut, List.map_map]
  exact List.map_id'' (fun s => String.ofList_toList) pieces

theorem toList_subset_join (sep piece : String) (others : List String) :
    piece.toList ⊆ (join sep (piece :: others)).toList := by
  rw [join, String.toList_intercalate]
  cases others with
  | nil => simp
  | cons next rest =>
    rw [List.map_cons, List.map_cons, List.intercalate_cons_cons, List.append_assoc]
    exact List.subset_append_left _ _

/-- There is one piece more than there are separators. -/
theorem length_splitChars (sep : Char) (cs : List Char) :
    (splitChars sep cs).length = cs.count sep + 1 := by
  induction cs with
  | nil => rfl
  | cons c rest ih =>
    rw [splitChars]
    split
    · rename_i same
      rw [same, List.length_cons, ih, List.count_cons_self]
    · rename_i other
      rw [List.count_cons_of_ne other, ← ih]
      cases pieces : splitChars sep rest with
      | nil => exact absurd pieces (splitChars_ne_nil sep rest)
      | cons piece pieces => rfl

/-- Without a separator there is nothing to cut. -/
theorem splitChars_of_not_mem {sep : Char} {cs : List Char} (free : sep ∉ cs) :
    splitChars sep cs = [cs] := by
  induction cs with
  | nil => rfl
  | cons c rest ih =>
    rw [List.mem_cons, not_or] at free
    rw [splitChars, if_neg (Ne.symm free.1), ih free.2]

/-- No other character is lost when a text is cut. -/
theorem count_splitChars {sep c : Char} (other : c ≠ sep) (cs : List Char) :
    ((splitChars sep cs).map (List.count c)).sum = cs.count c := by
  induction cs with
  | nil => rfl
  | cons d rest ih =>
    rw [splitChars]
    split
    · rename_i same
      rw [same, List.count_cons_of_ne other.symm, ← ih, List.map_cons, List.sum_cons,
        List.count_nil, Nat.zero_add]
    · cases pieces : splitChars sep rest with
      | nil => exact absurd pieces (splitChars_ne_nil sep rest)
      | cons piece pieces =>
        simp only [pieces, List.map_cons, List.sum_cons] at ih ⊢
        rw [List.count_cons, List.count_cons]
        omega

/-- What is not in the text between the pieces is in the pieces. -/
theorem count_join {sep : String} {c : Char} (other : c ∉ sep.toList) (pieces : List String) :
    (join sep pieces).toList.count c = (pieces.map (·.toList.count c)).sum := by
  rw [join, String.toList_intercalate]
  induction pieces with
  | nil => rfl
  | cons piece rest ih =>
    cases rest with
    | nil => simp
    | cons next rest =>
      rw [List.map_cons, List.map_cons, List.intercalate_cons_cons, List.count_append,
        List.count_append, List.count_eq_zero.mpr other, ← List.map_cons, ih, List.map_cons,
        List.map_cons, List.sum_cons, List.map_cons, List.sum_cons, List.sum_cons, Nat.add_zero]

section Strip

variable {α : Type} {drops : α → Bool} {xs : List α}

theorem mem_of_mem_strip {x : α} (member : x ∈ strip drops xs) : x ∈ xs := by
  rw [strip, List.mem_reverse] at member
  have inside := (List.dropWhile_sublist drops).subset member
  rw [List.mem_reverse] at inside
  exact (List.dropWhile_sublist drops).subset inside

theorem drops_of_head?_dropWhile {x : α} (first : (xs.dropWhile drops).head? = some x) :
    drops x = false := by
  have stays := List.head?_dropWhile_not drops xs
  rw [first] at stays
  simpa using stays

/-- Stripping a second time changes nothing. -/
theorem strip_strip (drops : α → Bool) (xs : List α) :
    strip drops (strip drops xs) = strip drops xs := by
  apply strip_eq_self
  · intro x first
    obtain ⟨dropped, whole⟩ : strip drops xs <+: xs.dropWhile drops :=
      List.rdropWhile_prefix drops _
    apply @drops_of_head?_dropWhile _ _ xs
    rw [← whole, List.head?_append, first]
    rfl
  · intro x last
    rw [strip, List.getLast?_reverse] at last
    exact drops_of_head?_dropWhile last

/-- Elements that are dropped do not count at the ends. -/
theorem strip_between {before after : List α} (first : ∀ a ∈ before, drops a = true)
    (last : ∀ a ∈ after, drops a = true) :
    strip drops (before ++ xs ++ after) = strip drops xs := by
  rw [strip, List.append_assoc, List.dropWhile_append_of_pos first, List.dropWhile_append]
  cases rest : xs.dropWhile drops with
  | nil =>
    have nothing : after.dropWhile drops = [] := List.dropWhile_eq_nil_iff.mpr last
    simp [strip, rest, nothing]
  | cons a others =>
    have backwards : ∀ a ∈ after.reverse, drops a = true := by simpa using last
    rw [List.isEmpty_cons, if_neg Bool.false_ne_true, List.reverse_append,
      List.dropWhile_append_of_pos backwards, strip, rest]

theorem exists_strip (drops : α → Bool) (xs : List α) :
    ∃ before after, xs = before ++ strip drops xs ++ after ∧ (∀ a ∈ before, drops a = true) ∧
      ∀ a ∈ after, drops a = true := by
  refine ⟨xs.takeWhile drops, ((xs.dropWhile drops).reverse.takeWhile drops).reverse, ?_, ?_, ?_⟩
  · rw [strip, List.append_assoc, ← List.reverse_append, List.takeWhile_append_dropWhile,
      List.reverse_reverse, List.takeWhile_append_dropWhile]
  · exact fun a member => List.mem_takeWhile_imp member
  · exact fun a member => List.mem_takeWhile_imp (List.mem_reverse.mp member)

theorem strip_map {f : α → α} (kept : ∀ a, drops (f a) = drops a) (xs : List α) :
    strip drops (xs.map f) = (strip drops xs).map f := by
  have same : drops ∘ f = drops := funext kept
  rw [strip, List.dropWhile_map, same, ← List.map_reverse, List.dropWhile_map, same,
    ← List.map_reverse, strip]

theorem count_dropWhile [BEq α] [LawfulBEq α] {x : α} (stays : drops x = false) (xs : List α) :
    (xs.dropWhile drops).count x = xs.count x := by
  induction xs with
  | nil => rfl
  | cons y rest ih =>
    cases dropped : drops y with
    | true =>
      have other : y ≠ x := by
        rintro rfl
        rw [stays] at dropped
        cases dropped
      rw [List.dropWhile_cons_of_pos dropped, ih, List.count_cons_of_ne other]
    | false => rw [List.dropWhile_cons_of_neg (Bool.eq_false_iff.mp dropped)]

/-- What is not dropped at the ends is not lost. -/
theorem count_strip [BEq α] [LawfulBEq α] {x : α} (stays : drops x = false) (xs : List α) :
    (strip drops xs).count x = xs.count x := by
  rw [strip, List.count_reverse, count_dropWhile stays, List.count_reverse,
    count_dropWhile stays]

end Strip

theorem trim_trim (s : String) : trim (trim s) = trim s := by
  rw [trim, trim, String.toList_ofList, strip_strip]

/-- No letter is blank, in whatever case. -/
theorem isBlank_toLower (c : Char) : isBlank c.toLower = isBlank c := by
  by_cases upper : c.val ≥ 'A'.val ∧ c.val ≤ 'Z'.val
  · have range : 65 ≤ c.toNat ∧ c.toNat ≤ 90 := upper
    have shifted : c.toLower.val = c.val + 32 := congrArg Char.val (dif_pos upper)
    have lowered : c.toLower.toNat = c.toNat + 32 := by
      rw [Char.toNat, shifted, UInt32.toNat_add]
      exact Nat.mod_eq_of_lt (by change c.toNat + 32 < _; omega)
    have plain : IsPlain c := ⟨by omega, by omega⟩
    have plainLower : IsPlain c.toLower := ⟨by omega, by omega⟩
    rw [plain.not_blank, plainLower.not_blank]
  · exact congrArg isBlank (dif_neg upper)

theorem trim_lowerLetters (s : String) : trim (lowerLetters s) = lowerLetters (trim s) := by
  apply String.toList_inj.mp
  rw [trim, lowerLetters, lowerLetters, trim, String.toList_map, String.toList_map,
    String.toList_ofList, String.toList_ofList]
  exact strip_map isBlank_toLower s.toList

/-- A text with a visible character is not blank. -/
theorem isAllBlank_eq_false {s : String} :
    isAllBlank s = false ↔ ∃ c ∈ s.toList, isBlank c = false := by
  simp [isAllBlank]

end SqlScribe.Text

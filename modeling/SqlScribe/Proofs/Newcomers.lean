import Mathlib.Data.List.Induction

/-!
# Lists in which nothing is repeated

Items are put at the end of a list one after the other, each unless the list has the same one
already. What is put there are the items that repeat nothing in front of them: an item that repeats
one that was left out repeats the one for which that was left out.
-/

namespace SqlScribe

variable {α : Type} {same : α → α → Bool}

/-- The list with an item at its end, unless it has the same one already. -/
def taken (same : α → α → Bool) (kept : List α) (x : α) : List α :=
  if kept.any (same · x) then kept else kept ++ [x]

/-- The items that are the same as none of those present and as none in front of them. -/
def newcomers (same : α → α → Bool) (present items : List α) : List α :=
  (items.zipIdx.filter fun a => !(present ++ items.take a.2).any (same · a.1)).map (·.1)

theorem newcomers_append (present items : List α) (x : α) :
    newcomers same present (items ++ [x]) =
      newcomers same present items ++ if (present ++ items).any (same · x) then [] else [x] := by
  have unchanged : ∀ a ∈ items.zipIdx,
      (!(present ++ (items ++ [x]).take a.2).any (same · a.1)) =
        !(present ++ items.take a.2).any (same · a.1) := by
    intro a member
    have before : a.2 ≤ items.length := by
      have := List.snd_lt_add_of_mem_zipIdx member
      omega
    rw [List.take_append_of_le_length before]
  have whole : (items ++ [x]).take items.length = items := List.take_left
  rw [newcomers, newcomers, List.zipIdx_append, List.filter_append, List.map_append,
    List.filter_congr unchanged, Nat.zero_add, List.zipIdx_singleton, List.filter_cons,
    List.filter_nil, whole]
  cases (present ++ items).any (same · x) <;> rfl

theorem newcomers_sublist (present items : List α) :
    (newcomers same present items).Sublist items := by
  have first : items.zipIdx.map (·.1) = items := by simp
  conv => rhs; rw [← first]
  exact List.filter_sublist.map _

theorem mem_taken {kept : List α} {x y : α} (member : y ∈ taken same kept x) :
    y ∈ kept ∨ y = x := by
  unfold taken at member
  split at member
  · exact .inl member
  · exact (List.mem_append.mp member).imp_right List.mem_singleton.mp

theorem mem_foldl_taken {present items : List α} {y : α}
    (member : y ∈ items.foldl (taken same) present) : y ∈ present ∨ y ∈ items := by
  induction items generalizing present with
  | nil => exact .inl member
  | cons x rest ih =>
    obtain kept | later := ih member
    · obtain before | rfl := mem_taken kept
      · exact .inl before
      · exact .inr List.mem_cons_self
    · exact .inr (List.mem_cons_of_mem x later)

/-- What differs pairwise still does with one more item. -/
theorem pairwise_taken {kept : List α} (differing : kept.Pairwise fun a b => same a b = false)
    (x : α) : (taken same kept x).Pairwise fun a b => same a b = false := by
  unfold taken
  split
  · exact differing
  · rename_i fresh
    rw [Bool.not_eq_true, List.any_eq_false] at fresh
    refine List.pairwise_append.mpr ⟨differing, List.pairwise_singleton _ _, ?_⟩
    intro y member z last
    rw [List.mem_singleton.mp last]
    exact Bool.eq_false_iff.mpr (fresh y member)

theorem pairwise_foldl_taken {present : List α}
    (differing : present.Pairwise fun a b => same a b = false) (items : List α) :
    (items.foldl (taken same) present).Pairwise fun a b => same a b = false := by
  induction items generalizing present with
  | nil => exact differing
  | cons x rest ih => exact ih (pairwise_taken differing x)

/-- Items that differ pairwise are all put at the end. -/
theorem foldl_taken_of_pairwise {present items : List α}
    (differing : (present ++ items).Pairwise fun a b => same a b = false) :
    items.foldl (taken same) present = present ++ items := by
  induction items generalizing present with
  | nil => rw [List.append_nil, List.foldl_nil]
  | cons x rest ih =>
    have fresh : present.any (same · x) = false := List.any_eq_false.mpr fun y member =>
      Bool.eq_false_iff.mp <|
        (List.pairwise_append.mp differing).2.2 y member x List.mem_cons_self
    have whole : present ++ x :: rest = (present ++ [x]) ++ rest := by
      rw [List.append_assoc, List.singleton_append]
    rw [whole] at differing ⊢
    rw [List.foldl_cons, taken, fresh, ← ih differing]
    rfl

/-- An item is put at the end, or it repeats one that is there. -/
theorem mem_or_same_foldl_taken {present items : List α} {x : α} (member : x ∈ items) :
    ∃ y ∈ items.foldl (taken same) present, y = x ∨ same y x = true := by
  induction items using List.reverseRecOn with
  | nil => cases member
  | append_singleton items last ih =>
    rw [List.foldl_append, List.foldl_cons, List.foldl_nil, taken]
    obtain earlier | here := List.mem_append.mp member
    · obtain ⟨y, kept, alike⟩ := ih earlier
      split
      · exact ⟨y, kept, alike⟩
      · exact ⟨y, List.mem_append_left _ kept, alike⟩
    · obtain rfl := List.mem_singleton.mp here
      split
      · rename_i repeated
        obtain ⟨y, kept, alike⟩ := List.any_eq_true.mp repeated
        exact ⟨y, kept, .inr alike⟩
      · exact ⟨x, List.mem_append_right _ (List.mem_singleton_self x), .inl rfl⟩

variable (chained : ∀ x y z, same x y = true → same y z = true → same x z = true)
include chained

/-- An item that repeats one that has been left out repeats one that has been kept. -/
theorem any_foldl_taken (present items : List α) (x : α) :
    (items.foldl (taken same) present).any (same · x) = (present ++ items).any (same · x) := by
  induction items using List.reverseRecOn generalizing x with
  | nil => rw [List.foldl_nil, List.append_nil]
  | append_singleton items last ih =>
    rw [List.foldl_append, List.foldl_cons, List.foldl_nil, taken, ih last, ← List.append_assoc,
      @List.any_append _ _ (present ++ items), List.any_cons, List.any_nil, Bool.or_false]
    split
    · rename_i repeated
      rw [ih x]
      cases equal : same last x with
      | false => rw [Bool.or_false]
      | true =>
        obtain ⟨earlier, member, alike⟩ := List.any_eq_true.mp repeated
        rw [Bool.or_true, List.any_eq_true]
        exact ⟨earlier, member, chained earlier last x alike equal⟩
    · rw [List.any_append, ih x, List.any_cons, List.any_nil, Bool.or_false]

/-- What is put behind the items that are present are the newcomers, in their order. -/
theorem foldl_taken (present items : List α) :
    items.foldl (taken same) present = present ++ newcomers same present items := by
  induction items using List.reverseRecOn with
  | nil => rw [List.foldl_nil, newcomers, List.zipIdx_nil, List.filter_nil, List.map_nil,
      List.append_nil]
  | append_singleton items last ih =>
    rw [List.foldl_append, List.foldl_cons, List.foldl_nil, taken, any_foldl_taken chained,
      newcomers_append, ← List.append_assoc, ← ih]
    split
    · rw [List.append_nil]
    · rfl

end SqlScribe

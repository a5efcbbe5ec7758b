import SqlScribe.Table.Query

/-!
# Sorting

A sort by a comparison that is a total preorder on the elements of a list loses nothing, puts no
element behind a greater one, and leaves elements that tie in the order in which they came.
-/

namespace SqlScribe

/-- On some elements the comparison is a total preorder. -/
structure PreordersOn {α : Type} (compare : α → α → Ordering) (P : α → Prop) : Prop where
  swap : ∀ {a b}, P a → P b → compare b a = (compare a b).swap
  trans : ∀ {a b c}, P a → P b → P c → compare a b ≠ .gt → compare b c ≠ .gt → compare a c ≠ .gt

/-- The later of two comparisons counts where the earlier ties. -/
theorem then_ne_gt_iff {first second : Ordering} :
    first.then second ≠ .gt ↔ first = .lt ∨ first = .eq ∧ second ≠ .gt := by
  cases first <;> simp [Ordering.then]

namespace PreordersOn

variable {α β : Type} {compare : α → α → Ordering} {P : α → Prop} {a b c : α}

/-- Elements that are compared by their ranks in a total preorder. -/
theorem of_rank {ρ : Type} [Ord ρ] [Std.TransOrd ρ] (rank : α → ρ)
    (ranked : ∀ {a b}, P a → P b → compare a b = Ord.compare (rank a) (rank b)) :
    PreordersOn compare P where
  swap ha hb := by
    rw [ranked hb ha, ranked ha hb]
    exact Std.OrientedCmp.eq_swap
  trans ha hb hc := by
    rw [ranked ha hb, ranked hb hc, ranked ha hc]
    intro first second
    exact Ordering.isLE_iff_ne_gt.mp (Std.TransCmp.isLE_trans
      (Ordering.isLE_iff_ne_gt.mpr first) (Ordering.isLE_iff_ne_gt.mpr second))

/-- What is compared by something that the comparison is a total preorder on. -/
theorem comap {Q : β → Prop} (h : PreordersOn compare P) (f : β → α)
    (within : ∀ {b}, Q b → P (f b)) : PreordersOn (fun b c => compare (f b) (f c)) Q where
  swap ha hb := h.swap (within ha) (within hb)
  trans ha hb hc := h.trans (within ha) (within hb) (within hc)

/-- The preorder in the other direction. -/
theorem swapped (h : PreordersOn compare P) : PreordersOn (fun a b => (compare a b).swap) P where
  swap ha hb := congrArg Ordering.swap (h.swap ha hb)
  trans ha hb hc := by
    rw [← h.swap ha hb, ← h.swap hb hc, ← h.swap ha hc]
    exact fun first second => h.trans hc hb ha second first

variable (h : PreordersOn compare P)
include h

theorem eq_iff (ha : P a) (hb : P b) :
    compare a b = .eq ↔ compare a b ≠ .gt ∧ compare b a ≠ .gt := by
  rw [h.swap ha hb]
  cases compare a b <;> simp

theorem eq_trans (ha : P a) (hb : P b) (hc : P c) (first : compare a b = .eq)
    (second : compare b c = .eq) : compare a c = .eq := by
  rw [h.eq_iff ha hb] at first
  rw [h.eq_iff hb hc] at second
  exact (h.eq_iff ha hc).mpr
    ⟨h.trans ha hb hc first.1 second.1, h.trans hc hb ha second.2 first.2⟩

theorem lt_iff (ha : P a) (hb : P b) :
    compare a b = .lt ↔ compare a b ≠ .gt ∧ compare b a = .gt := by
  rw [h.swap ha hb]
  cases compare a b <;> simp

theorem lt_of_lt_of_ne_gt (ha : P a) (hb : P b) (hc : P c) (first : compare a b = .lt)
    (second : compare b c ≠ .gt) : compare a c = .lt := by
  obtain ⟨at_most, back⟩ := (h.lt_iff ha hb).mp first
  refine (h.lt_iff ha hc).mpr ⟨h.trans ha hb hc at_most second, ?_⟩
  exact Decidable.byContradiction fun round => h.trans hb hc ha second round back

theorem lt_of_ne_gt_of_lt (ha : P a) (hb : P b) (hc : P c) (first : compare a b ≠ .gt)
    (second : compare b c = .lt) : compare a c = .lt := by
  obtain ⟨at_most, back⟩ := (h.lt_iff hb hc).mp second
  refine (h.lt_iff ha hc).mpr ⟨h.trans ha hb hc first at_most, ?_⟩
  exact Decidable.byContradiction fun round => h.trans hc ha hb round first back

/-- Pairs of which the first parts decide, and the second parts where these tie. -/
theorem lexicographic {compare' : β → β → Ordering} {Q : β → Prop} (h' : PreordersOn compare' Q) :
    PreordersOn (fun a b : α × β => (compare a.1 b.1).then (compare' a.2 b.2))
      fun a => P a.1 ∧ Q a.2 where
  swap ha hb := by
    rw [h.swap ha.1 hb.1, h'.swap ha.2 hb.2, Ordering.swap_then]
  trans ha hb hc := by
    simp only [then_ne_gt_iff]
    rintro (first | ⟨first, rest⟩) (second | ⟨second, rest'⟩)
    · exact .inl (h.lt_of_lt_of_ne_gt ha.1 hb.1 hc.1 first (by rw [second]; decide))
    · exact .inl (h.lt_of_lt_of_ne_gt ha.1 hb.1 hc.1 first (by rw [second]; decide))
    · exact .inl (h.lt_of_ne_gt_of_lt ha.1 hb.1 hc.1 (by rw [first]; decide) second)
    · exact .inr ⟨h.eq_trans ha.1 hb.1 hc.1 first second, h'.trans ha.2 hb.2 hc.2 rest rest'⟩

end PreordersOn

section Insertion

variable {α : Type} {compare : α → α → Ordering} {P : α → Prop} {earlier : α → α → Prop}
  {x : α} {xs : List α}

/-- One element may stand in front of another: it is less, or the two tie and it came first. -/
def InOrder (compare : α → α → Ordering) (earlier : α → α → Prop) (a b : α) : Prop :=
  compare a b = .lt ∨ compare a b = .eq ∧ earlier a b

theorem InOrder.ne_gt {a b : α} (h : InOrder compare earlier a b) : compare a b ≠ .gt := by
  rintro greater
  simp [InOrder, greater] at h

theorem InOrder.of_ne_gt {a b : α} (not_greater : compare a b ≠ .gt) (first : earlier a b) :
    InOrder compare earlier a b := by
  cases order : compare a b with
  | lt => exact .inl order
  | eq => exact .inr ⟨order, first⟩
  | gt => exact absurd order not_greater

theorem insertBack_perm (compare : α → α → Ordering) (x : α) (sorted : List α) :
    (insertBack compare x sorted).Perm (x :: sorted) := by
  induction sorted with
  | nil => exact List.Perm.refl _
  | cons y rest ih =>
    unfold insertBack
    split
    · exact (ih.cons y).trans (List.Perm.swap x y rest)
    · exact List.Perm.refl _

/-- An element that came after all others is put in its place. The list is held back to front. -/
theorem insertBack_inOrder (h : PreordersOn compare P) (hx : P x) {sorted : List α}
    (all : ∀ y ∈ sorted, P y) (last : ∀ y ∈ sorted, earlier y x)
    (ordered : sorted.Pairwise fun a b => InOrder compare earlier b a) :
    (insertBack compare x sorted).Pairwise fun a b => InOrder compare earlier b a := by
  induction sorted with
  | nil => exact List.pairwise_singleton _ _
  | cons y rest ih =>
    obtain ⟨hy, others⟩ := List.forall_mem_cons.mp all
    obtain ⟨front, inner⟩ := List.pairwise_cons.mp ordered
    unfold insertBack
    split
    · rename_i less
      refine List.pairwise_cons.mpr ⟨fun z member => ?_,
        ih others (fun z member => last z (List.mem_cons_of_mem y member)) inner⟩
      obtain rfl | inside := List.mem_cons.mp ((insertBack_perm compare x rest).mem_iff.mp member)
      · exact .inl (eq_of_beq less)
      · exact front z inside
    · rename_i not_less
      have at_most : compare y x ≠ .gt := by
        rw [h.swap hx hy]
        cases order : compare x y <;> simp [order] at not_less ⊢
      refine List.pairwise_cons.mpr ⟨fun z member => ?_, ordered⟩
      apply InOrder.of_ne_gt _ (last z member)
      obtain rfl | inside := List.mem_cons.mp member
      · exact at_most
      · exact h.trans (others z inside) hy hx (front z inside).ne_gt at_most

/-- The elements in front are sorted already; the list is held back to front. -/
theorem foldl_insertBack_perm (compare : α → α → Ordering) (xs sorted : List α) :
    (xs.foldl (fun sorted x => insertBack compare x sorted) sorted).Perm (xs ++ sorted) := by
  induction xs generalizing sorted with
  | nil => exact List.Perm.refl _
  | cons x rest ih =>
    refine (ih _).trans ?_
    exact ((insertBack_perm compare x sorted).append_left rest).trans List.perm_middle

theorem foldl_insertBack_inOrder (h : PreordersOn compare P) {sorted : List α}
    (all : ∀ x ∈ xs, P x) (already : ∀ y ∈ sorted, P y) (came : xs.Pairwise earlier)
    (behind : ∀ y ∈ sorted, ∀ x ∈ xs, earlier y x)
    (ordered : sorted.Pairwise fun a b => InOrder compare earlier b a) :
    (xs.foldl (fun sorted x => insertBack compare x sorted) sorted).Pairwise
      fun a b => InOrder compare earlier b a := by
  induction xs generalizing sorted with
  | nil => exact ordered
  | cons x rest ih =>
    obtain ⟨hx, others⟩ := List.forall_mem_cons.mp all
    obtain ⟨first, later⟩ := List.pairwise_cons.mp came
    have inserted {y : α} (member : y ∈ insertBack compare x sorted) : y = x ∨ y ∈ sorted :=
      List.mem_cons.mp ((insertBack_perm compare x sorted).mem_iff.mp member)
    apply ih others _ later
    · intro y member z follows
      obtain rfl | inside := inserted member
      · exact first z follows
      · exact behind y inside z (List.mem_cons_of_mem x follows)
    · exact insertBack_inOrder h hx already
        (fun y member => behind y member x List.mem_cons_self) ordered
    · intro y member
      obtain rfl | inside := inserted member
      · exact hx
      · exact already y inside

end Insertion

section Sorted

variable {α β : Type} {compare : α → α → Ordering} {P : α → Prop} {earlier : α → α → Prop}
  {xs : List α}

theorem stableSort_perm (compare : α → α → Ordering) (xs : List α) :
    (stableSort compare xs).Perm xs := by
  refine (List.reverse_perm _).trans ((foldl_insertBack_perm compare xs []).trans ?_)
  rw [List.append_nil]

/-- No element stands behind a greater one, and of two elements that tie the one that came first
stands in front. -/
theorem stableSort_inOrder (h : PreordersOn compare P) (all : ∀ x ∈ xs, P x)
    (came : xs.Pairwise earlier) :
    (stableSort compare xs).Pairwise (InOrder compare earlier) :=
  List.pairwise_reverse.mpr (foldl_insertBack_inOrder h all (List.forall_mem_nil _) came
    (List.forall_mem_nil _) List.Pairwise.nil)

theorem insertBack_map (compare : β → β → Ordering) (f : α → β) (x : α) (sorted : List α) :
    insertBack compare (f x) (sorted.map f) =
      (insertBack (fun a b => compare (f a) (f b)) x sorted).map f := by
  induction sorted with
  | nil => rfl
  | cons y rest ih =>
    rw [List.map_cons, insertBack, insertBack]
    split
    · rw [ih, List.map_cons]
    · rfl

/-- A list may be sorted by what its elements are mapped to. -/
theorem stableSort_map (compare : β → β → Ordering) (f : α → β) (xs : List α) :
    stableSort compare (xs.map f) = (stableSort (fun a b => compare (f a) (f b)) xs).map f := by
  have mapped (sorted : List α) :
      (xs.map f).foldl (fun sorted x => insertBack compare x sorted) (sorted.map f) =
        (xs.foldl (fun sorted x => insertBack (fun a b => compare (f a) (f b)) x sorted)
          sorted).map f := by
    induction xs generalizing sorted with
    | nil => rfl
    | cons x rest ih => rw [List.map_cons, List.foldl_cons, insertBack_map, ih, List.foldl_cons]
  rw [stableSort, stableSort, List.map_reverse]
  exact congrArg List.reverse (mapped [])

end Sorted

end SqlScribe

import Mathlib.Data.List.Forall2
import SqlScribe.Statement.Filter

/-!
# Lists item by item

Lists whose items are all taken, and lists that are cut into groups.
-/

namespace SqlScribe

/-- A step over a list succeeds if it does for every item. -/
theorem mapM_eq_ok_iff {α β ε : Type} {f : α → Except ε β} {xs : List α} {ys : List β} :
    xs.mapM f = .ok ys ↔ List.Forall₂ (fun x y => f x = .ok y) xs ys := by
  induction xs generalizing ys with
  | nil => cases ys <;> simp [pure, Except.pure]
  | cons x rest ih =>
    rw [List.mapM_cons, List.forall₂_cons_left_iff]
    cases first : f x with
    | error e => simp [bind, Except.bind]
    | ok y =>
      cases others : rest.mapM f with
      | error e =>
        simp only [bind, Except.bind, reduceCtorEq, Except.ok.injEq, false_iff]
        rintro ⟨_, zs, -, later, -⟩
        rw [ih.mpr later] at others
        cases others
      | ok zs =>
        simp only [bind, Except.bind, pure, Except.pure, Except.ok.injEq]
        constructor
        · rintro rfl
          exact ⟨y, zs, rfl, ih.mp others, rfl⟩
        · rintro ⟨_, ws, rfl, later, rfl⟩
          rw [ih.mpr later] at others
          cases others
          rfl

/-- What a step over a list has made was made of an item of the list. -/
theorem exists_of_mem_mapM {α β ε : Type} {f : α → Except ε β} {xs : List α} {ys : List β}
    (all : xs.mapM f = .ok ys) {y : β} (member : y ∈ ys) : ∃ x ∈ xs, f x = .ok y := by
  rw [mapM_eq_ok_iff] at all
  induction all with
  | nil => cases member
  | cons first _ ih =>
    cases member with
    | head => exact ⟨_, List.mem_cons_self, first⟩
    | tail _ later =>
      obtain ⟨x, inside, made⟩ := ih later
      exact ⟨x, List.mem_cons_of_mem _ inside, made⟩

/-- What is related item by item is related for each item. -/
theorem exists_of_forall₂ {α β : Type} {R : α → β → Prop} {xs : List α} {ys : List β}
    (h : List.Forall₂ R xs ys) {x : α} (member : x ∈ xs) : ∃ y, R x y := by
  induction h with
  | nil => cases member
  | @cons _ y _ _ first _ ih =>
    cases member with
    | head => exact ⟨y, first⟩
    | tail _ later => exact ih later

theorem forall₂_of_forall {α β : Type} {R : α → β → Prop} {xs : List α}
    (h : ∀ x ∈ xs, ∃ y, R x y) : ∃ ys, List.Forall₂ R xs ys := by
  induction xs with
  | nil => exact ⟨[], .nil⟩
  | cons x rest ih =>
    obtain ⟨y, first⟩ := h x List.mem_cons_self
    obtain ⟨ys, others⟩ := ih fun x member => h x (List.mem_cons_of_mem _ member)
    exact ⟨y :: ys, .cons first others⟩

/-- To change all results of a list is to change the list of results. -/
theorem mapM_map_result {α β γ ε : Type} (f : α → Except ε β) (g : β → γ) (xs : List α) :
    (xs.mapM fun x => (f x).map g) = (xs.mapM f).map (List.map g) := by
  induction xs with
  | nil => rfl
  | cons x rest ih =>
    rw [List.mapM_cons, List.mapM_cons, ih]
    cases f x with
    | error e => rfl
    | ok y => cases rest.mapM f <;> rfl

theorem mapM_append_eq_ok_iff {α β ε : Type} {f : α → Except ε β} {xs ys : List α} {zs : List β} :
    (xs ++ ys).mapM f = .ok zs ↔
      ∃ as bs, xs.mapM f = .ok as ∧ ys.mapM f = .ok bs ∧ zs = as ++ bs := by
  rw [List.mapM_append]
  cases xs.mapM f with
  | error e => simp [bind, Except.bind]
  | ok as =>
    cases ys.mapM f with
    | error e => simp [bind, Except.bind]
    | ok bs => simp [bind, Except.bind, pure, Except.pure, eq_comm]

variable {α : Type}

theorem inGroups_nil (size : Nat) : inGroups size ([] : List α) = [] := by
  rw [inGroups]
  simp

/-- Cutting loses nothing and keeps the order. -/
theorem flatten_inGroups (size : Nat) (xs : List α) : (inGroups size xs).flatten = xs := by
  fun_induction inGroups size xs with
  | case1 xs _ nothing => simp_all
  | case2 xs _ _ => simp
  | case3 xs _ ih => rw [List.flatten_cons, ih, List.take_append_drop]

/-- Groups of images are images of groups. -/
theorem inGroups_map {β : Type} (f : α → β) (size : Nat) (xs : List α) :
    inGroups size (xs.map f) = (inGroups size xs).map (List.map f) := by
  fun_induction inGroups size xs with
  | case1 xs few nothing =>
    obtain rfl : xs = [] := List.isEmpty_iff.mp nothing
    exact inGroups_nil size
  | case2 xs few something =>
    rw [inGroups, dif_pos (by simpa using few), if_neg (by simpa using something)]
    rfl
  | case3 xs many ih =>
    rw [inGroups, dif_neg (by simpa using many), ← List.map_take, ← List.map_drop, ih,
      List.map_cons]

theorem pos_of_mem_inGroups {size : Nat} {xs group : List α} (member : group ∈ inGroups size xs) :
    0 < group.length := by
  fun_induction inGroups size xs with
  | case1 xs _ nothing => cases member
  | case2 xs _ something =>
    rw [List.mem_singleton.mp member]
    exact List.length_pos_iff.mpr (by simpa using something)
  | case3 xs many ih =>
    cases member with
    | head =>
      rw [List.length_take]
      omega
    | tail _ later => exact ih later

theorem length_le_of_mem_inGroups {size : Nat} (positive : 0 < size) {xs group : List α}
    (member : group ∈ inGroups size xs) : group.length ≤ size := by
  fun_induction inGroups size xs with
  | case1 xs _ nothing => cases member
  | case2 xs few something =>
    rw [List.mem_singleton.mp member]
    omega
  | case3 xs many ih =>
    cases member with
    | head =>
      rw [List.length_take]
      omega
    | tail _ later => exact ih later

/-- Lists that are related item by item are cut alike. -/
theorem inGroups_rel {β : Type} {R : α → β → Prop} (size : Nat) {xs : List α} {ys : List β}
    (h : List.Forall₂ R xs ys) :
    List.Forall₂ (List.Forall₂ R) (inGroups size xs) (inGroups size ys) := by
  have length := h.length_eq
  fun_induction inGroups size xs generalizing ys with
  | case1 xs few nothing =>
    obtain rfl : xs = [] := List.isEmpty_iff.mp nothing
    obtain rfl : ys = [] := List.forall₂_nil_left_iff.mp h
    rw [inGroups_nil]
    exact .nil
  | case2 xs few something =>
    have something' : ¬ ys.isEmpty = true := by
      rw [List.isEmpty_iff, ← List.length_eq_zero_iff, ← length, List.length_eq_zero_iff]
      simpa using something
    rw [inGroups, dif_pos (length ▸ few), if_neg something']
    exact .cons h .nil
  | case3 xs many ih =>
    have cut : inGroups size ys = ys.take size :: inGroups size (ys.drop size) := by
      rw [inGroups, dif_neg (length ▸ many)]
    rw [cut]
    have later := List.forall₂_drop size h
    exact .cons (List.forall₂_take size h) (ih later later.length_eq)

end SqlScribe

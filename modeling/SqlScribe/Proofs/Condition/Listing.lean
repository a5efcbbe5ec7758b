import Mathlib.Data.List.Forall2

/-!
# The layout of a list

Membership in a list is written as one term for each group of its constants, and one for NULL. The
layout of these terms does not depend on what the constants become, so the same one is given to the
instructions that write them and to the pieces that these add.
-/

namespace SqlScribe.Listing

variable {α β : Type}

section Layout

variable (text : String → α)

/-- Parts with a text between neighbours. -/
def joined (sep : String) : List (List α) → List α
  | [] => []
  | [part] => part
  | part :: rest => part ++ text sep :: joined sep rest

/-- An operand, and values in parentheses. -/
def group (lhs : String) (values : List α) : List α :=
  text lhs :: text " IN " :: text "(" :: (joined text ", " (values.map fun v => [v]) ++ [text ")"])

/-- The term for NULL. -/
def null (lhs : String) : List α := [text lhs, text " IS NULL"]

/-- Terms with OR between neighbours, in parentheses if there is more than one. -/
def disjoined (terms : List (List α)) : List α :=
  if 1 < terms.length then text "(" :: (joined text " OR " terms ++ [text ")"])
  else joined text " OR " terms

/-- A term for each group, and one for NULL if it is listed. -/
def layout (lhs : String) (groups : List (List α)) (nulls : Bool) : List α :=
  disjoined text (groups.map (group text lhs) ++ if nulls then [null text lhs] else [])

end Layout

section Relation

variable {R : α → β → Prop} {text : String → α} {other : String → β}

/-- What relates texts and parts relates the parts with texts between them. -/
theorem joined_rel (texts : ∀ s, R (text s) (other s)) (sep : String) {parts : List (List α)}
    {parts' : List (List β)} (h : List.Forall₂ (List.Forall₂ R) parts parts') :
    List.Forall₂ R (joined text sep parts) (joined other sep parts') := by
  induction h with
  | nil => exact .nil
  | cons first rest ih =>
    cases rest with
    | nil => exact first
    | cons second others => exact List.rel_append first (.cons (texts sep) ih)

theorem group_rel (texts : ∀ s, R (text s) (other s)) (lhs : String) {values : List α}
    {values' : List β} (h : List.Forall₂ R values values') :
    List.Forall₂ R (group text lhs values) (group other lhs values') := by
  have single : List.Forall₂ (List.Forall₂ R) (values.map fun v => [v])
      (values'.map fun v => [v]) := by
    rw [List.forall₂_map_left_iff, List.forall₂_map_right_iff]
    exact h.imp fun _ _ related => .cons related .nil
  have closing : List.Forall₂ R [text ")"] [other ")"] := .cons (texts ")") .nil
  exact .cons (texts lhs) (.cons (texts " IN ") (.cons (texts "(")
    (List.rel_append (joined_rel texts ", " single) closing)))

theorem disjoined_rel (texts : ∀ s, R (text s) (other s)) {terms : List (List α)}
    {terms' : List (List β)} (h : List.Forall₂ (List.Forall₂ R) terms terms') :
    List.Forall₂ R (disjoined text terms) (disjoined other terms') := by
  have all := joined_rel texts " OR " h
  unfold disjoined
  rw [h.length_eq]
  by_cases many : 1 < terms'.length
  · rw [if_pos many, if_pos many]
    exact .cons (texts "(") (List.rel_append all (.cons (texts ")") .nil))
  · rw [if_neg many, if_neg many]
    exact all

theorem layout_rel (texts : ∀ s, R (text s) (other s)) (lhs : String) {groups : List (List α)}
    {groups' : List (List β)} (h : List.Forall₂ (List.Forall₂ R) groups groups') (nulls : Bool) :
    List.Forall₂ R (layout text lhs groups nulls) (layout other lhs groups' nulls) := by
  apply disjoined_rel texts
  apply List.rel_append
  · rw [List.forall₂_map_left_iff, List.forall₂_map_right_iff]
    exact h.imp fun _ _ related => group_rel texts lhs related
  · cases nulls with
    | true => exact .cons (.cons (texts lhs) (.cons (texts " IS NULL") .nil)) .nil
    | false => exact .nil

end Relation

variable {text : String → α}

theorem mem_joined (sep : String) {x : α} {part : List α} {parts : List (List α)}
    (member : x ∈ part) (among : part ∈ parts) : x ∈ joined text sep parts := by
  induction parts with
  | nil => cases among
  | cons first rest ih =>
    cases rest with
    | nil =>
      rw [List.mem_singleton] at among
      exact among ▸ member
    | cons second others =>
      rw [joined, List.mem_append, List.mem_cons]
      · cases among with
        | head => exact .inl member
        | tail _ later => exact .inr (.inr (ih later))
      · intro nothing
        cases nothing

theorem mem_disjoined {x : α} {term : List α} {terms : List (List α)} (member : x ∈ term)
    (among : term ∈ terms) : x ∈ disjoined text terms := by
  have inside : x ∈ joined text " OR " terms := mem_joined " OR " member among
  unfold disjoined
  split
  · exact List.mem_cons_of_mem _ (List.mem_append_left _ inside)
  · exact inside

/-- Every value of every group is written. -/
theorem mem_layout (lhs : String) {v : α} {values : List α} {groups : List (List α)} (nulls : Bool)
    (member : v ∈ values) (among : values ∈ groups) : v ∈ layout text lhs groups nulls := by
  have within : v ∈ group text lhs values := by
    have inside : v ∈ joined text ", " (values.map fun v => [v]) :=
      mem_joined ", " (List.mem_singleton_self v) (List.mem_map_of_mem member)
    simp only [group, List.mem_cons, List.mem_append]
    exact .inr (.inr (.inr (.inl inside)))
  exact mem_disjoined within (List.mem_append_left _ (List.mem_map_of_mem among))

end SqlScribe.Listing

import SqlScribe.Proofs.Value.Ranks

/-!
# Sort keys

Keys with one value for each term of an ordering are compared term by term, each term in its own
direction. If the values under a term are of one type, this is a total preorder on the keys.
-/

namespace SqlScribe

namespace Value

/-- The first value comes before the second; NULL comes before everything else. -/
def Less (v w : Value) : Prop := w ≠ .null ∧ (v = .null ∨ v.compare? w = some .lt)

theorem less_iff {v w : Value} : v.Less w ↔ v.compare? w = some .lt := by
  constructor
  · rintro ⟨something, rfl | less⟩
    · cases w with
      | null => exact absurd rfl something
      | _ => rfl
    · exact less
  · intro less
    refine ⟨?_, .inr less⟩
    rintro rfl
    cases v <;> cases less

theorem preordersOn {ty : ColumnType} (known : ty ≠ .unknown) (exact : ty ≠ .float) :
    PreordersOn (fun v w : Value => (v.compare? w).getD .eq) fun v => v.belongs ty = true :=
  PreordersOn.of_rank rank fun left right => by
    rw [compare?_eq_rank known exact left right, Option.getD_some]

end Value

namespace Direction

variable {v w : Value} {ty : ColumnType}

/-- The order of two values under a direction. -/
def compare (direction : Direction) (v w : Value) : Ordering :=
  if direction = .desc then ((v.compare? w).getD .eq).swap else (v.compare? w).getD .eq

/-- The first value stands in front of the second under a direction. -/
def Puts : Direction → Value → Value → Prop
  | asc, v, w => v.Less w
  | desc, v, w => w.Less v

theorem preordersOn (direction : Direction) (known : ty ≠ .unknown) (exact : ty ≠ .float) :
    PreordersOn direction.compare fun v => v.belongs ty = true := by
  cases direction with
  | asc => exact Value.preordersOn known exact
  | desc => exact (Value.preordersOn known exact).swapped

theorem compare_eq_iff {direction : Direction} (known : ty ≠ .unknown) (exact : ty ≠ .float)
    (left : v.belongs ty = true) (right : w.belongs ty = true) :
    direction.compare v w = .eq ↔ v.compare? w = some .eq := by
  have ranked := Value.compare?_eq_rank known exact left right
  cases direction <;> simp [compare, ranked]

theorem compare_lt_iff {direction : Direction} (known : ty ≠ .unknown) (exact : ty ≠ .float)
    (left : v.belongs ty = true) (right : w.belongs ty = true) :
    direction.compare v w = .lt ↔ direction.Puts v w := by
  have ranked := Value.compare?_eq_rank known exact left right
  cases direction with
  | asc => simp [compare, Puts, Value.less_iff, ranked]
  | desc =>
    have ranked' := Value.compare?_eq_rank known exact right left
    have turned : Ord.compare w.rank v.rank = (Ord.compare v.rank w.rank).swap :=
      Std.OrientedCmp.eq_swap
    simp [compare, Puts, Value.less_iff, ranked, ranked', turned]

end Direction

namespace SortKey

/-- The values of a key are of one type for each term, or NULL. -/
def OfTypes (types : List ColumnType) (key : SortKey) : Prop :=
  List.Forall₂ (fun v ty => v.belongs ty = true) key types

/-- No term of the ordering tells two keys apart. -/
def Ties (a b : SortKey) : Prop := List.Forall₂ (fun v w => v.compare? w = some .eq) a b

/-- The first term that tells two keys apart puts the first of them in front. -/
inductive Before : List Direction → SortKey → SortKey → Prop
  | here {direction : Direction} {directions : List Direction} {v w : Value} {vs ws : SortKey} :
    direction.Puts v w → Before (direction :: directions) (v :: vs) (w :: ws)
  | later {direction : Direction} {directions : List Direction} {v w : Value} {vs ws : SortKey} :
    v.compare? w = some .eq → Before directions vs ws →
      Before (direction :: directions) (v :: vs) (w :: ws)

variable {directions : List Direction} {types : List ColumnType} {a b : SortKey}

/-- Keys with values of fixed types are in a total preorder. -/
theorem preordersOn (one : directions.length = types.length)
    (comparable : ∀ ty ∈ types, ty ≠ .unknown ∧ ty ≠ .float) :
    PreordersOn (SortKey.compare directions) (OfTypes types) := by
  induction types generalizing directions with
  | nil =>
    obtain rfl := List.length_eq_zero_iff.mp one
    constructor
    · rintro _ _ ⟨⟩ ⟨⟩
      rfl
    · rintro _ _ _ ⟨⟩ ⟨⟩ ⟨⟩ _ _
      decide
  | cons ty types ih =>
    obtain ⟨direction, directions, rfl⟩ := List.exists_cons_of_length_eq_add_one one
    obtain ⟨⟨known, exact⟩, others⟩ := List.forall_mem_cons.mp comparable
    have pairs := (direction.preordersOn known exact).lexicographic (ih (Nat.succ.inj one) others)
    constructor
    · rintro (_ | ⟨v, vs⟩) (_ | ⟨w, ws⟩) (_ | ⟨hv, hvs⟩) (_ | ⟨hw, hws⟩)
      exact pairs.swap (a := (v, vs)) (b := (w, ws)) ⟨hv, hvs⟩ ⟨hw, hws⟩
    · rintro (_ | ⟨u, us⟩) (_ | ⟨v, vs⟩) (_ | ⟨w, ws⟩)
        (_ | ⟨hu, hus⟩) (_ | ⟨hv, hvs⟩) (_ | ⟨hw, hws⟩)
      exact pairs.trans (a := (u, us)) (b := (v, vs)) (c := (w, ws)) ⟨hu, hus⟩ ⟨hv, hvs⟩ ⟨hw, hws⟩

theorem ties_of_compare (one : directions.length = types.length)
    (comparable : ∀ ty ∈ types, ty ≠ .unknown ∧ ty ≠ .float) (left : a.OfTypes types)
    (right : b.OfTypes types) (tie : SortKey.compare directions a b = .eq) : a.Ties b := by
  induction types generalizing directions a b with
  | nil =>
    obtain ⟨⟩ := left
    obtain ⟨⟩ := right
    exact List.Forall₂.nil
  | cons ty types ih =>
    obtain ⟨direction, directions, rfl⟩ := List.exists_cons_of_length_eq_add_one one
    obtain ⟨⟨known, exact⟩, others⟩ := List.forall_mem_cons.mp comparable
    obtain _ | ⟨hv, hvs⟩ := left
    obtain _ | ⟨hw, hws⟩ := right
    obtain ⟨first, rest⟩ := Ordering.then_eq_eq.mp tie
    exact List.Forall₂.cons ((Direction.compare_eq_iff known exact hv hw).mp first)
      (ih (Nat.succ.inj one) others hvs hws rest)

theorem before_of_compare (one : directions.length = types.length)
    (comparable : ∀ ty ∈ types, ty ≠ .unknown ∧ ty ≠ .float) (left : a.OfTypes types)
    (right : b.OfTypes types) (less : SortKey.compare directions a b = .lt) :
    Before directions a b := by
  induction types generalizing directions a b with
  | nil =>
    obtain rfl := List.length_eq_zero_iff.mp one
    cases less
  | cons ty types ih =>
    obtain ⟨direction, directions, rfl⟩ := List.exists_cons_of_length_eq_add_one one
    obtain ⟨⟨known, exact⟩, others⟩ := List.forall_mem_cons.mp comparable
    obtain _ | ⟨hv, hvs⟩ := left
    obtain _ | ⟨hw, hws⟩ := right
    obtain first | ⟨first, rest⟩ := Ordering.then_eq_lt.mp less
    · exact .here ((Direction.compare_lt_iff known exact hv hw).mp first)
    · exact .later ((Direction.compare_eq_iff known exact hv hw).mp first)
        (ih (Nat.succ.inj one) others hvs hws rest)

end SortKey

end SqlScribe

import SqlScribe.Proofs.Condition.TextBounds
import SqlScribe.Proofs.Value.Ranks
import SqlScribe.Proofs.Value.Sameness

/-!
# The order of one column

What a column holds is ordered as a whole, NULL below everything else, unless the column holds
floating-point numbers or values of every kind. Days and moments are ordered together as well: a
day is compared as its own midnight, so it ties with that moment though the two are not the same
value.
-/

namespace SqlScribe.Value

/-- A day, a moment or NULL. -/
def isTemporal : Value → Bool
  | null | date _ | dateTime _ => true
  | _ => false

/-- Values among which there is an order: those of one column, or days and moments. -/
inductive Orderable : (Value → Prop) → Prop
  | column {ty : ColumnType} (known : ty ≠ .unknown) (exact : ty ≠ .float) :
    Orderable fun v => v.belongs ty = true
  | temporal : Orderable fun v => v.isTemporal = true

/-- The order of values is total on some of them, with NULL at the bottom. It is a preorder only: a
day and its midnight tie. -/
structure TotallyOrdered (P : Value → Prop) : Prop where
  answers : ∀ {v w}, P v → P w →
    ∃ order, v.compare? w = some order ∧ w.compare? v = some order.swap
  trans : ∀ {u v w}, P u → P v → P w → u.compare? v ≠ some .gt → v.compare? w ≠ some .gt →
    u.compare? w ≠ some .gt
  least : ∀ {w}, P w → null.compare? w = some (if w = .null then .eq else .lt)
  ties_iff : ∀ {v w}, P v → P w → (v.compare? w = some .eq ↔
    v.equals w = true ∨ (∃ d, v = .date d ∧ w = .dateTime (.startOf d)) ∨
      ∃ d, v = .dateTime (.startOf d) ∧ w = .date d)

/-- A day as the moment at which it begins. -/
def asMoment : Value → Value
  | date d => .dateTime (.startOf d)
  | v => v

theorem compare?_asMoment (v w : Value) : v.asMoment.compare? w.asMoment = v.compare? w := by
  cases v with
  | date d =>
    cases w with
    | date e =>
      rw [asMoment, asMoment, compare?, compare?, DateTime.compare_rank, DateTime.startOf,
        DateTime.startOf, Std.compare_self, Ordering.then_eq]
    | _ => rfl
  | _ => cases w <;> rfl

theorem equals_asMoment (v w : Value) :
    v.asMoment.equals w.asMoment = true ↔
      v.equals w = true ∨ (∃ d, v = .date d ∧ w = .dateTime (.startOf d)) ∨
        ∃ d, v = .dateTime (.startOf d) ∧ w = .date d := by
  cases v with
  | date d => cases w <;> simp [asMoment, equals, DateTime.startOf, eq_comm]
  | dateTime m => cases w <;> simp [asMoment, equals, eq_comm]
  | _ => cases w <;> simp [asMoment, equals]

variable {P : Value → Prop}

/-- With days taken as moments, values that are ordered are those of one column. -/
theorem Orderable.exists_column (h : Orderable P) :
    ∃ ty, ty ≠ .unknown ∧ ty ≠ .float ∧ ∀ v, P v → v.asMoment.belongs ty = true := by
  cases h with
  | temporal =>
    refine ⟨.dateTime, by decide, by decide, fun v temporal => ?_⟩
    cases v <;> first | rfl | cases temporal
  | @column ty known exact =>
    by_cases days : ty = .date
    · refine ⟨.dateTime, by decide, by decide, fun v belongs => ?_⟩
      subst days
      cases v <;> first | rfl | cases belongs
    · refine ⟨ty, known, exact, fun v belongs => ?_⟩
      cases v with
      | date d => cases ty <;> contradiction
      | _ => exact belongs

/-- Values that are ordered form a total preorder, and a day stands wherever its midnight does. -/
theorem Orderable.totallyOrdered (h : Orderable P) :
    TotallyOrdered P ∧ ∀ d w,
      (date d).compare? w = (dateTime (.startOf d)).compare? w ∧
        w.compare? (date d) = w.compare? (dateTime (.startOf d)) := by
  obtain ⟨ty, known, exact, column⟩ := h.exists_column
  have ranked {v w : Value} (hv : P v) (hw : P w) :
      v.compare? w = some (compare v.asMoment.rank w.asMoment.rank) := by
    rw [← compare?_asMoment, compare?_eq_rank known exact (column v hv) (column w hw)]
  have preorder : PreordersOn (fun v w : Value => compare v.asMoment.rank w.asMoment.rank) P :=
    PreordersOn.of_rank (fun v => v.asMoment.rank) fun _ _ => rfl
  constructor
  · constructor
    · intro v w hv hw
      exact ⟨_, ranked hv hw, by rw [ranked hw hv, preorder.swap hv hw]⟩
    · intro u v w hu hv hw
      rw [ranked hu hv, ranked hv hw, ranked hu hw]
      simpa only [ne_eq, Option.some.injEq] using preorder.trans hu hv hw
    · intro w _
      cases w <;> rfl
    · intro v w hv hw
      obtain ⟨order, answer, tie⟩ := compare?_of_belongs known exact (column v hv) (column w hw)
      have same := equals_iff_keyImage_eq (v := v.asMoment)
        (isExact_of_belongs known exact (column w hw))
      rw [← compare?_asMoment, answer, Option.some.injEq, tie, ← same, equals_asMoment]
  · intro d w
    constructor
    · rw [← compare?_asMoment, ← compare?_asMoment (dateTime (.startOf d))]
      rfl
    · rw [← compare?_asMoment, ← compare?_asMoment w (dateTime (.startOf d))]
      rfl

/-- The first day ties with its midnight, stands above NULL and below its own noon. -/
theorem first_day_among_moments :
    TotallyOrdered (fun v => v.isTemporal = true) ∧
      TotallyOrdered (fun v => v.belongs .money = true) ∧
        null.compare? (date .first) = some .lt ∧
          (date .first).compare? (dateTime (.startOf .first)) = some .eq ∧
            (date .first).compare? (dateTime ⟨.first, (Time.of? 12 0 0 0).get rfl⟩) =
              some .lt := by
  obtain ⟨moments, midnight⟩ := Orderable.totallyOrdered .temporal
  obtain ⟨amounts, -⟩ := Orderable.totallyOrdered (P := fun v => v.belongs .money = true)
    (.column (by decide) (by decide))
  refine ⟨moments, amounts, moments.least rfl, (moments.ties_iff rfl rfl).mpr ?_, ?_⟩
  · exact .inr (.inl ⟨.first, rfl, rfl⟩)
  · rw [(midnight .first _).1]
    decide +kernel

end SqlScribe.Value

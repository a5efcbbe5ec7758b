import SqlScribe.Dialect.Builtin
import SqlScribe.Proofs.Value.Sameness

/-!
# Prepared values

A value that has been prepared for a column stays as it is when it is prepared for that column once
more.
-/

namespace SqlScribe

namespace Value

/-- The value is one that columns of this type hold. -/
def belongs : Value → ColumnType → Bool
  | null, _ => true
  | _, .unknown => true
  | string _, .string => true
  | string _, .memo => true
  | string _, .xml => true
  | int _, .integer => true
  | float _, .float => true
  | money _, .money => true
  | bool _, .boolean => true
  | date _, .date => true
  | time _, .time => true
  | dateTime _, .dateTime => true
  | guid _, .guid => true
  | binary _, .binary => true
  | _, _ => false

/-- What a conversion gives belongs to the type it was made for. -/
theorem belongs_of_convert? {v w : Value} {ty : ColumnType} (h : v.convert? ty = some w) :
    w.belongs ty = true := by
  unfold convert? at h
  split at h
  · cases h
    rfl
  · cases ty with
    | unknown => cases w <;> rfl
    | boolean =>
      have truth : ∃ b, w = .bool b := by
        simp only [toBoolean?] at h
        grind [Option.map_eq_some_iff]
      obtain ⟨b, rfl⟩ := truth
      rfl
    | _ =>
      cases v <;>
        simp only [toStringValue?, toInteger?, toFloat?, toMoney?, toDate?, toTime?, toDateTime?,
          toGuid?, toBinary?, Option.map_eq_some_iff, Option.some.injEq, reduceCtorEq] at h <;>
        first
        | (subst h; rfl)
        | (obtain ⟨_, _, rfl⟩ := h; rfl)

/-- A conversion gives NULL for NULL only. -/
theorem isNull_of_convert? {v w : Value} {ty : ColumnType} (h : v.convert? ty = some w) :
    w.isNull = v.isNull := by
  unfold convert? at h
  split at h
  · rename_i nothing
    cases h
    exact nothing.symm
  · rename_i something
    have kept : w ≠ .null := by
      rintro rfl
      cases ty with
      | unknown =>
        obtain rfl := Option.some.inj h
        exact something rfl
      | boolean =>
        simp only [toBoolean?] at h
        grind [Option.map_eq_some_iff]
      | _ =>
        cases v <;>
          simp only [toStringValue?, toInteger?, toFloat?, toMoney?, toDate?, toTime?, toDateTime?,
            toGuid?, toBinary?, Option.map_eq_some_iff, Option.some.injEq, reduceCtorEq, and_false,
            exists_false] at h
    have given : v.isNull = false := Bool.eq_false_iff.mpr something
    rw [given]
    cases w with
    | null => exact absurd rfl kept
    | _ => rfl

/-- A value that belongs to a type is not changed by a conversion to it. -/
theorem convert?_of_belongs {v : Value} {ty : ColumnType} (h : v.belongs ty = true) :
    v.convert? ty = some v := by
  cases v <;> cases ty <;> first | contradiction | rfl

/-- Only a column of floating-point numbers holds them. -/
theorem isExact_of_belongs {v : Value} {ty : ColumnType} (known : ty ≠ .unknown)
    (exact : ty ≠ .float) (h : v.belongs ty = true) : v.isExact = true := by
  cases v with
  | float x => cases ty <;> contradiction
  | _ => rfl

end Value

namespace Dialect

/-- What a dialect binds for a column it binds again when it finds it there. -/
def Settles (d : Dialect) : Prop :=
  ∀ v w ty, d.prepare v ty = .ok w → d.prepare w ty = .ok w

/-- Preparing never makes a floating-point number for a column of another type. -/
def KeepsExact (d : Dialect) : Prop :=
  ∀ v w ty, ty ≠ .unknown → ty ≠ .float → d.prepare v ty = .ok w → w.isExact = true

/-- A conversion that is followed by a change of form settles if the new form converts back to a
value of the same form. -/
theorem settles_of_bound {d : Dialect} (form : Value → Value)
    (prepare : ∀ v ty, d.prepare v ty = (v.convert ty).map form)
    (back : ∀ v ty, v.belongs ty = true →
      ∃ u, (form v).convert? ty = some u ∧ form u = form v) : d.Settles := by
  intro v w ty h
  rw [prepare] at h
  cases converted : v.convert ty with
  | error e => simp [converted, Except.map] at h
  | ok u =>
    simp only [converted, Except.map, Except.ok.injEq] at h
    subst h
    obtain ⟨u', again, same⟩ :=
      back u ty (Value.belongs_of_convert? (Value.convert_eq_ok.mp converted))
    rw [prepare, Value.convert_eq_ok.mpr again]
    exact congrArg Except.ok same

theorem keepsExact_of_bound {d : Dialect} (form : Value → Value)
    (prepare : ∀ v ty, d.prepare v ty = (v.convert ty).map form)
    (keeps : ∀ v, v.isExact = true → (form v).isExact = true) : d.KeepsExact := by
  intro v w ty known exact h
  rw [prepare] at h
  cases converted : v.convert ty with
  | error e => simp [converted, Except.map] at h
  | ok u =>
    simp only [converted, Except.map, Except.ok.injEq] at h
    subst h
    exact keeps u (Value.isExact_of_belongs known exact
      (Value.belongs_of_convert? (Value.convert_eq_ok.mp converted)))

/-- A dialect prepares a value for a column as it does what the value is converted to. -/
def PreparesConverted (d : Dialect) : Prop :=
  ∀ v w ty, ty ≠ .unknown →
    (d.prepare v ty = .ok w ↔ ∃ u, v.convert ty = .ok u ∧ d.prepare u ty = .ok w)

theorem preparesConverted_of_bound {d : Dialect} (form : Value → Value)
    (prepare : ∀ v ty, d.prepare v ty = (v.convert ty).map form) : d.PreparesConverted := by
  intro v w ty _
  rw [prepare]
  cases converted : v.convert ty with
  | error fault => simp [Except.map]
  | ok u =>
    have again : u.convert ty = .ok u := Value.convert_eq_ok.mpr
      (Value.convert?_of_belongs (Value.belongs_of_convert? (Value.convert_eq_ok.mp converted)))
    constructor
    · intro prepared
      refine ⟨u, rfl, ?_⟩
      rw [prepare, again]
      exact prepared
    · rintro ⟨_, ⟨⟩, prepared⟩
      rw [prepare, again] at prepared
      exact prepared

theorem preparesConverted_of_convert {d : Dialect} (prepare : d.prepare = Value.convert) :
    d.PreparesConverted := by
  apply preparesConverted_of_bound id
  intro v ty
  rw [prepare]
  cases v.convert ty <;> rfl

theorem Sqlite.bound_back {v : Value} {ty : ColumnType} (h : v.belongs ty = true) :
    ∃ u, (bound v).convert? ty = some u ∧ bound u = bound v := by
  cases v with
  | guid g =>
    cases ty with
    | guid => exact ⟨.guid g, by simp [bound, Value.convert?, Value.isNull, Value.toGuid?,
        Guid.ofBlob?_toBlob], rfl⟩
    | unknown => exact ⟨.binary g.toBlob, rfl, rfl⟩
    | _ => cases h
  | _ => exact ⟨_, Value.convert?_of_belongs h, rfl⟩

theorem Db2.bound_back {v : Value} {ty : ColumnType} (h : v.belongs ty = true) :
    ∃ u, (bound v).convert? ty = some u ∧ bound u = bound v := by
  cases v with
  | bool b =>
    cases ty with
    | boolean => exact ⟨.bool b, by cases b <;> decide +kernel, rfl⟩
    | unknown => exact ⟨.string (if b then "1" else "0"), rfl, rfl⟩
    | _ => cases h
  | _ => exact ⟨_, Value.convert?_of_belongs h, rfl⟩

end Dialect

namespace Builtin

/-- How a built-in dialect holds a converted value. -/
def form : Builtin → Value → Value
  | sqlite => Dialect.Sqlite.bound
  | db2 => Dialect.Db2.bound
  | _ => id

theorem prepare_eq (b : Builtin) (v : Value) (ty : ColumnType) :
    b.dialect.prepare v ty = (v.convert ty).map b.form := by
  cases b with
  | sqlite | db2 => rfl
  | mssql | postgres | access | dataView =>
    change v.convert ty = (v.convert ty).map id
    cases v.convert ty <;> rfl

theorem form_back (b : Builtin) {v : Value} {ty : ColumnType} (h : v.belongs ty = true) :
    ∃ u, (b.form v).convert? ty = some u ∧ b.form u = b.form v := by
  cases b with
  | sqlite => exact Dialect.Sqlite.bound_back h
  | db2 => exact Dialect.Db2.bound_back h
  | _ => exact ⟨v, Value.convert?_of_belongs h, rfl⟩

/-- Every built-in dialect binds a value that it has bound before as it is. -/
theorem settles (b : Builtin) : b.dialect.Settles :=
  Dialect.settles_of_bound b.form b.prepare_eq fun _ _ h => b.form_back h

theorem preparesConverted (b : Builtin) : b.dialect.PreparesConverted :=
  Dialect.preparesConverted_of_bound b.form b.prepare_eq

theorem keepsExact (b : Builtin) : b.dialect.KeepsExact := by
  apply Dialect.keepsExact_of_bound b.form b.prepare_eq
  intro v exact
  cases b <;> cases v <;> first | rfl | exact exact

end Builtin

end SqlScribe

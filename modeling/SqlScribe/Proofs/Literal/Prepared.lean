import SqlScribe.Proofs.Statement.Script
import SqlScribe.Proofs.Value.Preparation

/-!
# Literals of converted and of prepared values

The literal of a value depends on its conversion alone. A dialect may bind values in a form of its
own; the built-in dialects write that form as they write the value itself.
-/

namespace SqlScribe

namespace Dialect

variable {d : Dialect} {v w : Value} {type : ColumnType}

/-- The literal of a known type is that of the converted value. -/
theorem literal_congr (known : type ≠ .unknown) (same : v.convert type = w.convert type) :
    d.literal v type = d.literal w type := by
  simp only [literal, if_neg known, same]

theorem literal_of_convert? (converted : v.convert? type = some w) :
    d.literal w type = d.literal v type := by
  by_cases known : type = .unknown
  · subst known
    have same : w = v := by
      cases v <;> exact (Option.some.inj converted).symm
    rw [same]
  · apply literal_congr known
    rw [Value.convert_eq_ok.mpr converted]
    exact Value.convert_eq_ok.mpr (Value.convert?_of_belongs (Value.belongs_of_convert? converted))

/-- Only a value that can be converted has a literal. -/
theorem convert?_of_literal {s : String} (written : d.literal v type = .ok s) :
    ∃ w, v.convert? type = some w := by
  by_cases known : type = .unknown
  · subst known
    cases v <;> exact ⟨_, rfl⟩
  · cases converted : v.convert type with
    | error fault =>
      simp only [literal, if_neg known, converted] at written
      cases written
    | ok w => exact ⟨w, Value.convert_eq_ok.mp converted⟩

theorem Sqlite.literal_bound (h : v.belongs type = true) :
    dialect.literal (bound v) type = dialect.literal v type := by
  cases v with
  | guid g =>
    cases type with
    | guid =>
      apply literal_congr (by decide)
      simp [Value.convert, bound, Value.convert?, Value.isNull, Value.toGuid?, Guid.ofBlob?_toBlob]
    | unknown => rfl
    | _ => cases h
  | _ => rfl

theorem Db2.literal_bound (h : v.belongs type = true) :
    dialect.literal (bound v) type = dialect.literal v type := by
  cases v with
  | bool b =>
    cases type with
    | boolean => cases b <;> decide +kernel
    | unknown => cases b <;> decide +kernel
    | _ => cases h
  | _ => rfl

end Dialect

namespace Builtin

theorem literal_form (b : Builtin) {v : Value} {type : ColumnType} (h : v.belongs type = true) :
    b.dialect.literal (b.form v) type = b.dialect.literal v type := by
  cases b with
  | sqlite => exact Dialect.Sqlite.literal_bound h
  | db2 => exact Dialect.Db2.literal_bound h
  | _ => rfl

end Builtin

end SqlScribe

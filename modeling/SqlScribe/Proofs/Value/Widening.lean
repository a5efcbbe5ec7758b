import SqlScribe.Proofs.Value.Preparation

/-!
# Conversions that cannot fail

Whether every value of one column type converts to another one is a matter of the two types alone.
-/

namespace SqlScribe

namespace ColumnType

/-- Every value of the first type converts to the second one. -/
def widens : ColumnType → ColumnType → Bool
  | _, unknown => true
  | unknown, _ => false
  | string, b | memo, b | xml, b => b.isText
  | integer, b => b.isText || b.isNumeric
  | float, b => b.isText || b == float
  | money, b => b.isText || b == float || b == money
  | boolean, b => b.isText || b == integer || b == boolean
  | date, b => b == date || b == dateTime
  | dateTime, b => b.isTemporal
  | time, b => b == time
  | guid, b => b.isText || b == guid || b == binary
  | binary, b => b == binary

/-- A value of the type that converts to no other type than it must. -/
def stray : ColumnType → Value
  | unknown => .null
  | string | memo | xml => .string "?"
  | integer => .int 2
  | float => .float (.nan false)
  | money => .money ((Decimal.of? false 5 1).get rfl)
  | boolean => .bool true
  | date => .date .first
  | dateTime => .dateTime (.startOf .first)
  | time => .time .midnight
  | guid => .guid .nil
  | binary => .binary []

variable {a b : ColumnType}

theorem widens_refl (a : ColumnType) : a.widens a = true := by
  cases a <;> rfl

theorem belongs_stray (a : ColumnType) : a.stray.belongs a = true := by
  cases a <;> rfl

theorem convert?_stray (known : a ≠ .unknown) (narrow : a.widens b = false) :
    a.stray.convert? b = none := by
  cases a with
  | unknown => exact absurd rfl known
  | _ => cases b <;> first | decide +kernel | cases narrow

end ColumnType

theorem Value.convert?_of_widens {v : Value} {a b : ColumnType} (h : v.belongs a = true)
    (wide : a.widens b = true) : (v.convert? b).isSome = true := by
  cases v with
  | null => rfl
  | _ => cases a <;> cases h <;> cases b <;> first | (cases wide; done) | rfl

/-- A type widens to another one exactly if all its values convert. -/
theorem ColumnType.widens_iff {a b : ColumnType} (known : a ≠ .unknown) :
    a.widens b = true ↔ ∀ v : Value, v.belongs a = true → (v.convert? b).isSome = true := by
  constructor
  · intro wide v member
    exact Value.convert?_of_widens member wide
  · intro all
    by_contra narrow
    have taken := all a.stray (belongs_stray a)
    rw [convert?_stray known (Bool.eq_false_iff.mpr narrow)] at taken
    cases taken

end SqlScribe

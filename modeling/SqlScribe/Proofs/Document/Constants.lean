import SqlScribe.Document.Expr
import SqlScribe.Proofs.Document.Contents
import SqlScribe.Proofs.Query.Checked

/-!
# What every constant has

A conversion gives a value of the type it was made for, which a second one leaves as it is. So in
whatever way a constant has been made, its type is known and its value belongs to it.
-/

namespace SqlScribe

namespace Value

/-- NULL is what NULL is converted to and nothing else is; what comes out belongs to the type and
is not changed any more. -/
theorem convert_settles {v w : Value} {ty : ColumnType} (made : v.convert ty = .ok w) :
    w.isNull = v.isNull ∧ w.belongs ty = true ∧ w.convert ty = .ok w := by
  rw [convert_eq_ok] at made
  have native := belongs_of_convert? made
  exact ⟨isNull_of_convert? made, native, convert_eq_ok.mpr (convert?_of_belongs native)⟩

end Value

namespace Constant

/-- The constants there are: of a given type, of an inferred one, a typed NULL, a value taken as it
is, and one that is read. -/
inductive Made : Constant → Prop
  | typed {v : Value} {ty : ColumnType} {c : Constant} (made : Constant.typed v ty = .ok c) : Made c
  | inferred {v : Value} {c : Constant} (made : infer v = .ok c) : Made c
  | null {ty : ColumnType} {c : Constant} (made : Constant.null ty = .ok c) : Made c
  | ofValue {v : Value} {c : Constant} (made : ofValue? v = some c) : Made c
  | read {doc : Json.Source} {c : Constant} (made : ofJson doc = .ok c) : Made c

variable {c : Constant}

/-- A constant that is read is made of the value and the type of its document. -/
theorem exists_typed_of_ofJson {doc : Json.Source} (made : ofJson doc = .ok c) :
    ∃ v ty, typed v ty = .ok c := by
  obtain ⟨members, -, made⟩ := bind_eq_ok_iff.mp made
  obtain ⟨⟨v, ty⟩, -, made⟩ := bind_eq_ok_iff.mp made
  exact ⟨v, ty, inDocument_eq_ok.mp made⟩

theorem Made.belongs (h : c.Made) : c.type ≠ .unknown ∧ c.value.belongs c.type = true := by
  cases h with
  | typed made | inferred made | null made => exact belongs_of_typed made
  | ofValue made => exact belongs_of_ofValue made
  | read made =>
    obtain ⟨v, ty, made⟩ := exists_typed_of_ofJson made
    exact belongs_of_typed made

/-- A conversion gives NULL exactly for NULL and otherwise a value of the type, and a second one
changes nothing. So every constant has a known type, and its value is NULL or of that type, and
converting it to the type succeeds and changes nothing. -/
theorem well_typed :
    (∀ (v w : Value) (ty : ColumnType), v.convert ty = .ok w →
      (w.isNull = true ↔ v.isNull = true) ∧ (w.isNull = false → w.belongs ty = true) ∧
        w.convert ty = .ok w) ∧
      ∀ c : Constant, c.Made →
        c.type ≠ .unknown ∧ (c.value.isNull = false → c.value.belongs c.type = true) ∧
          c.value.convert c.type = .ok c.value := by
  constructor
  · intro v w ty made
    obtain ⟨null, native, settled⟩ := Value.convert_settles made
    exact ⟨by rw [null], fun _ => native, settled⟩
  · intro c made
    obtain ⟨known, native⟩ := made.belongs
    exact ⟨known, fun _ => native, Value.convert_eq_ok.mpr (Value.convert?_of_belongs native)⟩

/-- The document of an integer that is given as a text. -/
def twelveAsText : Json :=
  .object [("value", .object [("type", .string "string"), ("value", .string " 12 ")]),
    ("type", .string "integer")]

/-- A text becomes an integer, and so does the one in a document; the integer stays what it is. -/
theorem well_typed_twelve :
    Value.convert (.string " 12 ") .integer = .ok (.int 12) ∧
      Value.convert (.int 12) .integer = .ok (.int 12) ∧
      ∃ c, ofJson (.ofJson twelveAsText) = .ok c ∧ c = ⟨.int 12, .integer⟩ ∧
        c.value.convert c.type = .ok c.value := by
  have converted : Value.convert (.string " 12 ") .integer = .ok (.int 12) := by decide +kernel
  have read : ofJson (.ofJson twelveAsText) = .ok ⟨.int 12, .integer⟩ := by decide +kernel
  exact ⟨converted, (well_typed.1 _ _ _ converted).2.2, _, read, rfl,
    (well_typed.2 _ (.read read)).2.2⟩

end Constant

end SqlScribe

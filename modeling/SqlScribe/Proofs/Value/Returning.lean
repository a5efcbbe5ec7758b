import SqlScribe.Proofs.Value.Sending

/-!
# Conversions that can be undone

A conversion changes the form of a truth value, an integer, an amount, a day, an identifier or
bytes, and refuses what has no such form in the other type. So what it gives converts back to the
type it came from, and to the value it came from. An amount that was an integer for a while has no
places when it is back. Conversions to floating-point numbers are left out, since they round.
-/

namespace SqlScribe

open Text

namespace Decimal

theorem amount_ofInt64 (n : Int64) : (ofInt64 n).amount = n.toInt := by
  have signed : (ofInt64 n).signedMantissa = n.toInt := by
    simp only [signedMantissa, ofInt64, decide_eq_true_eq]
    split <;> omega
  rw [amount, signed]
  simp [ofInt64]

/-- The whole number of an amount is the amount. -/
theorem amount_of_toInt? {d : Decimal} {n : Int} (whole : d.toInt? = some n) : d.amount = n := by
  unfold toInt? at whole
  split at whole
  · rename_i divides
    have mantissa : d.mantissa / Nat.pow 10 d.scale * 10 ^ d.scale = d.mantissa :=
      Nat.div_mul_cancel (Nat.dvd_of_mod_eq_zero divides)
    generalize d.mantissa / Nat.pow 10 d.scale = quotient at whole mantissa
    cases whole
    rw [amount, div_eq_iff (ten_pow_ne_zero d.scale), signedMantissa, ← mantissa]
    split <;> push_cast <;> ring
  · cases whole

theorem toInt?_ofInt64 (n : Int64) : (ofInt64 n).toInt? = some n.toInt := by
  simp only [toInt?, ofInt64, Nat.pow_eq, Nat.pow_zero, Nat.mod_one, Nat.div_one, if_true,
    decide_eq_true_eq, Option.some.injEq]
  split <;> omega

/-- An integer made of an amount makes the amount. -/
theorem ofInt64_equals {d : Decimal} {n : Int64} (fits : d.toInt?.bind fitInt64? = some n) :
    (ofInt64 n).equals d = true := by
  obtain ⟨whole, found, fit⟩ := Option.bind_eq_some_iff.mp fits
  rw [equals_iff, amount_ofInt64, amount_of_toInt? found, toInt_of_fitInt64? fit]

theorem equals_refl (d : Decimal) : d.equals d = true := (equals_iff d d).mpr rfl

end Decimal

theorem Guid.toBlob_of_ofBlob? {bytes : List UInt8} {g : Guid} (read : ofBlob? bytes = some g) :
    g.toBlob = bytes := by
  unfold ofBlob? of? at read
  split at read
  · cases read
    exact swapGroups_swapGroups bytes
  · cases read

namespace Value

/-- Values of the kinds that conversions lose nothing of. -/
inductive IsFirm : Value → Prop
  | bool (b : Bool) : IsFirm (.bool b)
  | int (n : Int64) : IsFirm (.int n)
  | money (d : Decimal) : IsFirm (.money d)
  | date (d : Date) : IsFirm (.date d)
  | guid (g : Guid) : IsFirm (.guid g)
  | binary (bytes : List UInt8) : IsFirm (.binary bytes)

theorem convert?_numeral (n : Int64) :
    (string (numeral n.toInt)).convert? .integer = some (int n) := by
  have converted (s : String) :
      (string s).convert? .integer = (readInt64? (trim s)).map int := rfl
  rw [converted, Literal.trim_numeral, readInt64?_numeral]
  rfl

variable {w : Value} {type : ColumnType}

theorem bool_back {b : Bool} (exact : type ≠ .float) (converted : (bool b).convert? type = some w) :
    w.convert? .boolean = some (bool b) := by
  cases type with
  | unknown | boolean =>
    cases converted
    rfl
  | string | memo | xml | integer =>
    cases converted
    cases b <;> decide +kernel
  | float => exact absurd rfl exact
  | _ => cases converted

theorem int_back {n : Int64} (exact : type ≠ .float) (converted : (int n).convert? type = some w) :
    w.convert? .integer = some (int n) := by
  cases type with
  | unknown | integer =>
    cases converted
    rfl
  | string | memo | xml =>
    cases converted
    exact convert?_numeral n
  | money =>
    cases converted
    change ((Decimal.ofInt64 n).toInt?.bind fitInt64?).map int = some (int n)
    rw [Decimal.toInt?_ofInt64, Option.bind_some, fitInt64?_toInt]
    rfl
  | boolean =>
    change (if n = 0 then some (bool false) else if n = 1 then some (bool true) else none) = some w
      at converted
    by_cases zero : n = 0
    · rw [if_pos zero] at converted
      cases converted
      rw [zero]
      rfl
    · rw [if_neg zero] at converted
      by_cases one : n = 1
      · rw [if_pos one] at converted
        cases converted
        rw [one]
        rfl
      · rw [if_neg one] at converted
        cases converted
  | float => exact absurd rfl exact
  | _ => cases converted

/-- The places of an amount are lost only on the way through an integer. -/
theorem money_back {d : Decimal} (exact : type ≠ .float)
    (converted : (money d).convert? type = some w) :
    ∃ e : Decimal, w.convert? .money = some (money e) ∧ e.equals d = true ∧
      (type ≠ .integer → e = d) := by
  cases type with
  | unknown | money =>
    cases converted
    exact ⟨d, rfl, d.equals_refl, fun _ => rfl⟩
  | string | memo | xml =>
    cases converted
    exact ⟨d, convert?_amount d, d.equals_refl, fun _ => rfl⟩
  | integer =>
    obtain ⟨n, fits, rfl⟩ := Option.map_eq_some_iff.mp converted
    exact ⟨.ofInt64 n, rfl, Decimal.ofInt64_equals fits, fun other => absurd rfl other⟩
  | float => exact absurd rfl exact
  | _ => cases converted

theorem date_back {d : Date} (converted : (date d).convert? type = some w) :
    w.convert? .date = some (date d) := by
  cases type with
  | unknown | date | dateTime =>
    cases converted
    rfl
  | _ => cases converted

theorem guid_back {g : Guid} (converted : (guid g).convert? type = some w) :
    w.convert? .guid = some (guid g) := by
  cases type with
  | unknown | guid =>
    cases converted
    rfl
  | string | memo | xml =>
    cases converted
    exact convert?_identifier g
  | binary =>
    cases converted
    change (Guid.ofBlob? g.toBlob).map guid = some (guid g)
    rw [Guid.ofBlob?_toBlob]
    rfl
  | _ => cases converted

theorem binary_back {bytes : List UInt8} (converted : (binary bytes).convert? type = some w) :
    w.convert? .binary = some (binary bytes) := by
  cases type with
  | unknown | binary =>
    cases converted
    rfl
  | guid =>
    obtain ⟨g, read, rfl⟩ := Option.map_eq_some_iff.mp converted
    change some (binary g.toBlob) = some (binary bytes)
    rw [Guid.toBlob_of_ofBlob? read]
  | _ => cases converted

/-- A value of a firm kind that is converted to a type other than floating-point numbers can be
converted back, and is the same then. Only an amount that went through an integer may be written
with other places. -/
theorem convert_back {v w : Value} {type : ColumnType} (firm : v.IsFirm) (exact : type ≠ .float)
    (converted : v.convert type = .ok w) :
    ∃ u, w.convert v.columnType = .ok u ∧ u.equals v = true ∧
      (v.columnType ≠ .money ∨ type ≠ .integer → u = v) := by
  have forward := convert_eq_ok.mp converted
  cases firm with
  | bool b =>
    exact ⟨_, convert_eq_ok.mpr (bool_back exact forward), decide_eq_true rfl, fun _ => rfl⟩
  | int n =>
    exact ⟨_, convert_eq_ok.mpr (int_back exact forward), decide_eq_true rfl, fun _ => rfl⟩
  | money d =>
    obtain ⟨e, back, same, kept⟩ := money_back exact forward
    refine ⟨.money e, convert_eq_ok.mpr back, same, ?_⟩
    intro other
    rw [kept (other.resolve_left fun differs => differs rfl)]
  | date d =>
    exact ⟨_, convert_eq_ok.mpr (date_back forward), decide_eq_true rfl, fun _ => rfl⟩
  | guid g =>
    exact ⟨_, convert_eq_ok.mpr (guid_back forward), decide_eq_true rfl, fun _ => rfl⟩
  | binary bytes =>
    exact ⟨_, convert_eq_ok.mpr (binary_back forward), decide_eq_true rfl, fun _ => rfl⟩

/-- Two and no hundredths go through an integer, which gives two. -/
theorem convert_back_whole :
    let given : Decimal := ⟨false, 200, 2, by decide, by decide, by decide⟩
    let back : Decimal := ⟨false, 2, 0, by decide, by decide, by decide⟩
    (money given).convert .integer = .ok (int 2) ∧
    (int 2).convert .money = .ok (money back) ∧
    (money back).equals (money given) = true := by
  intro given back
  have converted : (money given).convert .integer = .ok (int 2) := by decide +kernel
  obtain ⟨u, returned, same, -⟩ := convert_back (.money given) (by decide) converted
  have found : (int 2).convert .money = .ok (money back) := by decide +kernel
  have unique : u = money back := Except.ok.inj (returned.symm.trans found)
  exact ⟨converted, found, unique ▸ same⟩

end Value

end SqlScribe

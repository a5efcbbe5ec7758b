import SqlScribe.Text.Numeral

/-!
# Integers

Integers have 64 bits; what does not fit is refused, never wrapped.
-/

namespace SqlScribe

/-- The 64-bit integer equal to a whole number, if there is one. -/
def fitInt64? (n : Int) : Option Int64 :=
  if -9223372036854775808 ≤ n ∧ n ≤ 9223372036854775807 then some (.ofInt n) else none

/-- Reads an integer: an optional sign and digits. -/
def readInt64? (s : String) : Option Int64 := (Text.readSigned? s.toList).bind fitInt64?

theorem fitInt64?_toInt (n : Int64) : fitInt64? n.toInt = some n := by
  have := n.toInt_lt
  have := n.le_toInt
  rw [fitInt64?, if_pos (by omega), Int64.ofInt_toInt]

theorem toInt_of_fitInt64? {n : Int} {m : Int64} (h : fitInt64? n = some m) : m.toInt = n := by
  unfold fitInt64? at h
  split at h
  · rename_i bounds
    cases h
    exact Int64.toInt_ofInt_of_le (by omega) (by omega)
  · cases h

end SqlScribe

import SqlScribe.Number.Decimal.Conversion
import SqlScribe.Value

/-!
# The order of values

Values of one kind are ordered among themselves, numbers of different kinds as floating-point
numbers, and a day as its own beginning. NULL comes before everything.
-/

namespace SqlScribe.Value

/-- The floating-point number for a number of any kind. -/
def toBinary64? : Value → Option Binary64
  | int n => some (.ofInt n.toInt)
  | float x => some x
  | money d => some d.toBinary64
  | _ => none

/-- The order of two texts by the code points of their characters. -/
def compareTexts (s t : String) : Ordering :=
  compare (s.toList.map Char.toNat) (t.toList.map Char.toNat)

/-- The order of two byte sequences. -/
def compareBytes (a b : List UInt8) : Ordering :=
  compare (a.map UInt8.toNat) (b.map UInt8.toNat)

/-- The order of two values, if they have one. -/
def compare? : Value → Value → Option Ordering
  | null, null => some .eq
  | null, _ => some .lt
  | _, null => some .gt
  | bool a, bool b => some (compare a.toNat b.toNat)
  | int m, int n => some (compare m.toInt n.toInt)
  | money a, money b => some (a.compare b)
  | string s, string t => some (compareTexts s t)
  | date a, date b => some (compare a.rank b.rank)
  | dateTime a, dateTime b => some (compare a.rank b.rank)
  | date a, dateTime b => some (compare (DateTime.startOf a).rank b.rank)
  | dateTime a, date b => some (compare a.rank (DateTime.startOf b).rank)
  | time a, time b => some (compare a.rank b.rank)
  | guid a, guid b => some (compare a.rank b.rank)
  | binary a, binary b => some (compareBytes a b)
  | v, w =>
    match v.toBinary64?, w.toBinary64? with
    | some x, some y => x.compare? y
    | _, _ => none

end SqlScribe.Value

import Mathlib.Tactic.Common
import SqlScribe.Proofs.Statement.Script
import SqlScribe.Table.Evaluation

/-!
# Integers in evaluation

Functions compute with 64-bit integers. Evaluation overflows where the magnitude of the least
integer is asked for, and nowhere else. That the other operations stay in range is shown by watching
all of them: a watched operation computes its result exactly and overflows if that is no 64-bit
integer. No position and no length of a part of a text is ever out of range, whatever integers are
given for them; the length of a text is, if the text has more characters than there are positive
integers.
-/

namespace SqlScribe

/-- Only the least integer has no magnitude among the integers. -/
theorem toInt_abs_of_ne {n : Int64} (other : n ≠ Int64.minValue) :
    n.abs.toInt = n.toInt.natAbs :=
  BitVec.toInt_abs_eq_natAbs_of_ne_intMin fun least => other (Int64.toBitVec_inj.mp least)

theorem bind_eq_error_iff {ε α β : Type} {r : Except ε α} {f : α → Except ε β} {e : ε} :
    r >>= f = .error e ↔ r = .error e ∨ ∃ a, r = .ok a ∧ f a = .error e := by
  cases r <;> simp [bind, Except.bind]

/-! ## Functions -/

namespace Func

/-- The signed 64-bit integer that a result is. -/
def signed (n : Int) : Except Fault Int64 :=
  match fitInt64? n with
  | some m => .ok m
  | none => .error .overflow

/-- The unsigned 64-bit integer that a result is. -/
def unsigned (n : Int) : Except Fault Nat :=
  if 0 ≤ n ∧ n < 18446744073709551616 then .ok n.toNat else .error .overflow

theorem signed_toInt (n : Int64) : signed n.toInt = .ok n := by
  rw [signed, fitInt64?_toInt]

theorem signed_of_bounds {n : Int} (low : -9223372036854775808 ≤ n)
    (high : n < 9223372036854775808) : signed n = .ok (.ofInt n) := by
  rw [signed, fitInt64?, if_pos (by omega)]

theorem unsigned_of_bounds {n : Int} (low : 0 ≤ n) (high : n < 9223372036854775808) :
    unsigned n = .ok n.toNat := if_pos (by omega)

/-- How many characters stand in front of a position, which is counted from 1. -/
def watchedBefore (start : Int64) : Except Fault Nat := do
  unsigned (← signed (max start.toInt 1 - 1)).toInt

/-- How many characters are taken. -/
def watchedCount (count : Int64) : Except Fault Nat := unsigned (max count.toInt 0)

/-- A function of values that are not NULL, with every operation on integers watched. -/
def ofValuesWatched (f : Func) (args : List Value) : Except Fault Value :=
  match f, args with
  | length, [v] => do return .int (← signed v.plainText.length)
  | abs, [.int n] => do return .int (← signed n.toInt.natAbs)
  | substring, v :: start :: rest => do
    let start ← integerArgument start
    let behind := v.plainText.toList.drop (← watchedBefore start)
    match rest with
    | [] => return .string (.ofList behind)
    | count :: _ =>
      let count ← integerArgument count
      return .string (.ofList (behind.take (← watchedCount count)))
  | f, args => f.ofValues args

/-- The value of a function, with every operation on integers watched. -/
def evalWatched (f : Func) (args : List Value) : Except Fault Value :=
  if f = coalesce then .ok ((args.find? (!·.isNull)).getD .null)
  else if args.any (·.isNull) then .ok .null
  else f.ofValuesWatched args

theorem watchedBefore_eq (n : Int64) : watchedBefore n = .ok (n.toInt - 1).toNat := by
  have high := n.toInt_lt
  have exact : (Int64.ofInt (max n.toInt 1 - 1)).toInt = max n.toInt 1 - 1 :=
    Int64.toInt_ofInt_of_le (by omega) (by omega)
  calc watchedBefore n = unsigned (Int64.ofInt (max n.toInt 1 - 1)).toInt := by
        rw [watchedBefore, signed_of_bounds (by omega) (by omega)]
        rfl
    _ = .ok (max n.toInt 1 - 1).toNat := by
        rw [exact, unsigned_of_bounds (by omega) (by omega)]
    _ = .ok (n.toInt - 1).toNat := congrArg Except.ok (by omega)

theorem watchedCount_eq (n : Int64) : watchedCount n = .ok n.toInt.toNat := by
  have high := n.toInt_lt
  have count : (max n.toInt 0).toNat = n.toInt.toNat := by omega
  rw [watchedCount, ← count]
  exact unsigned_of_bounds (by omega) (by omega)

/-- The ends of a part of a text are never out of range. -/
theorem ofValuesWatched_substring (v start : Value) (rest : List Value) :
    ofValuesWatched substring (v :: start :: rest) = ofValues substring (v :: start :: rest) := by
  cases rest with
  | nil =>
    rw [ofValuesWatched, ofValues]
    apply bind_congr
    intro n
    rw [watchedBefore_eq]
    rfl
  | cons count rest =>
    rw [ofValuesWatched, ofValues]
    apply bind_congr
    intro n
    rw [watchedBefore_eq]
    change integerArgument count >>= _ = _
    apply bind_congr
    intro m
    rw [watchedCount_eq]
    rfl

example :
    (ofValuesWatched substring [.string "bolt", .int .minValue, .int .maxValue]).toOption =
      some (.string "bolt") := by
  decide +kernel

/-- The magnitude of an integer, watched, is the magnitude: it overflows for the same integer. -/
theorem ofValuesWatched_abs (n : Int64) : ofValuesWatched abs [.int n] = ofValues abs [.int n] := by
  by_cases least : n = Int64.minValue
  · subst least
    rfl
  · rw [ofValuesWatched, ofValues, if_neg least, ← toInt_abs_of_ne least, signed_toInt]
    rfl

/-- The call is one for the length of a text that is too long for any integer. -/
def TooLong (f : Func) (args : List Value) : Prop :=
  f = length ∧ ∃ v, args = [v] ∧ 9223372036854775808 ≤ v.plainText.length

variable {f : Func} {args : List Value}

theorem ofValuesWatched_eq (fits : ¬ f.TooLong args) :
    f.ofValuesWatched args = f.ofValues args := by
  unfold ofValuesWatched
  split
  · rename_i v
    have short : v.plainText.length < 9223372036854775808 :=
      Nat.lt_of_not_le fun long => fits ⟨rfl, v, rfl, long⟩
    rw [signed_of_bounds (by omega) (by omega)]
    rfl
  · exact ofValuesWatched_abs _
  · exact ofValuesWatched_substring ..
  · rfl

theorem evalWatched_eq (fits : ¬ f.TooLong args) : f.evalWatched args = f.eval args := by
  rw [evalWatched, eval, ofValuesWatched_eq fits]

/-- The call overflows. -/
def Overflows (f : Func) (args : List Value) : Prop := f.eval args = .error .overflow

theorem convert_ne_overflow (v : Value) (type : ColumnType) :
    v.convert type ≠ .error .overflow := by
  unfold Value.convert
  split <;> simp

theorem integerArgument_ne_overflow (v : Value) : integerArgument v ≠ .error .overflow := by
  unfold integerArgument
  rw [Ne, bind_eq_error_iff]
  rintro (stopped | ⟨w, -, stopped⟩)
  · exact convert_ne_overflow _ _ stopped
  · cases w <;> cases stopped

theorem checkArguments_ne_overflow (f : Func) (count : Nat) :
    f.checkArguments count ≠ .error .overflow := by
  unfold checkArguments
  split <;> simp

theorem ofValues_substring_ne_overflow (v start : Value) (rest : List Value) :
    ofValues substring (v :: start :: rest) ≠ .error .overflow := by
  cases rest with
  | nil =>
    rw [ofValues, Ne, bind_eq_error_iff]
    rintro (stopped | ⟨_, -, ⟨⟩⟩)
    exact integerArgument_ne_overflow _ stopped
  | cons count rest =>
    rw [ofValues, Ne, bind_eq_error_iff]
    rintro (stopped | ⟨_, -, stopped⟩)
    · exact integerArgument_ne_overflow _ stopped
    · obtain stopped | ⟨_, -, ⟨⟩⟩ := bind_eq_error_iff.mp stopped
      exact integerArgument_ne_overflow _ stopped

/-- What overflows is the magnitude of the least integer. -/
theorem overflows_iff : f.Overflows args ↔ f = abs ∧ args = [.int Int64.minValue] := by
  constructor
  · intro out
    unfold Overflows eval at out
    split at out
    · cases out
    · split at out
      · cases out
      · unfold ofValues at out
        split at out
        case h_6 =>
          split at out
          · rename_i least
            exact ⟨rfl, by rw [least]⟩
          · cases out
        case h_9 => exact absurd out (ofValues_substring_ne_overflow _ _ [])
        case h_10 more _ _ => exact absurd out (ofValues_substring_ne_overflow _ _ (_ :: more))
        all_goals cases out
  · rintro ⟨rfl, rfl⟩
    rfl

end Func

/-! ## Expressions -/

namespace Table

mutual

/-- The value of an expression over a row, with every operation on integers watched. -/
def evalWatched (t : Table) (row : Row) : Expr → Except Fault Value
  | .function f args => do
    f.checkArguments args.length
    f.evalWatched (← t.evalListWatched row args)
  | e => t.eval row e

def evalListWatched (t : Table) (row : Row) : List Expr → Except Fault (List Value)
  | [] => .ok []
  | e :: rest => do
    let v ← t.evalWatched row e
    return v :: (← t.evalListWatched row rest)

end

/-- The calls of functions that are made when an expression is evaluated. An argument is evaluated
once those in front of it have values. -/
inductive Calls (t : Table) (row : Row) : Expr → Func → List Value → Prop
  | call {f : Func} {args : List Expr} {vs : List Value}
      (taken : f.checkArguments args.length = .ok ()) (values : t.evalList row args = .ok vs) :
    Calls t row (.function f args) f vs
  | within {f g : Func} {front later : List Expr} {arg : Expr} {vs ws : List Value}
      (taken : f.checkArguments (front ++ arg :: later).length = .ok ())
      (values : t.evalList row front = .ok vs) (inner : Calls t row arg g ws) :
    Calls t row (.function f (front ++ arg :: later)) g ws

/-- Some call of a kind is made. -/
def Makes (t : Table) (row : Row) (kind : Func → List Value → Prop) (e : Expr) : Prop :=
  ∃ f vs, t.Calls row e f vs ∧ kind f vs

/-- Some argument makes a call of a kind, and those in front of it have values. -/
def MakesIn (t : Table) (row : Row) (kind : Func → List Value → Prop) (args : List Expr) : Prop :=
  ∃ front arg later vs, args = front ++ arg :: later ∧ t.evalList row front = .ok vs ∧
    t.Makes row kind arg

variable {t : Table} {row : Row} {kind : Func → List Value → Prop}

theorem makesIn_cons {e : Expr} {rest : List Expr} :
    t.MakesIn row kind (e :: rest) ↔
      t.Makes row kind e ∨ (∃ v, t.eval row e = .ok v) ∧ t.MakesIn row kind rest := by
  constructor
  · rintro ⟨front, arg, later, vs, split, values, inner⟩
    cases front with
    | nil =>
      obtain ⟨rfl, rfl⟩ := List.cons.inj split
      exact .inl inner
    | cons first front =>
      obtain ⟨rfl, rfl⟩ := List.cons.inj split
      obtain ⟨v, value, others⟩ := bind_eq_ok_iff.mp values
      obtain ⟨ws, values, -⟩ := bind_eq_ok_iff.mp others
      exact .inr ⟨⟨v, value⟩, front, arg, later, ws, rfl, values, inner⟩
  · rintro (inner | ⟨⟨v, value⟩, front, arg, later, vs, rfl, values, inner⟩)
    · exact ⟨[], e, rest, [], rfl, rfl, inner⟩
    · have evaluated : t.evalList row (e :: front) = .ok (v :: vs) :=
        bind_eq_ok_iff.mpr ⟨v, value, bind_eq_ok_iff.mpr ⟨vs, values, rfl⟩⟩
      exact ⟨e :: front, arg, later, v :: vs, rfl, evaluated, inner⟩

theorem not_makesIn_nil : ¬ t.MakesIn row kind [] := by
  rintro ⟨front, arg, later, vs, split, -⟩
  exact List.append_ne_nil_of_right_ne_nil front (List.cons_ne_nil arg later) split.symm

theorem makes_function {f : Func} {args : List Expr} :
    t.Makes row kind (.function f args) ↔ f.checkArguments args.length = .ok () ∧
      (t.MakesIn row kind args ∨ ∃ vs, t.evalList row args = .ok vs ∧ kind f vs) := by
  constructor
  · rintro ⟨g, ws, made, such⟩
    cases made with
    | call taken values => exact ⟨taken, .inr ⟨ws, values, such⟩⟩
    | within taken values inner => exact ⟨taken, .inl ⟨_, _, _, _, rfl, values, g, ws, inner, such⟩⟩
  · rintro ⟨taken, ⟨front, arg, later, vs, rfl, values, g, ws, inner, such⟩ | ⟨vs, values, such⟩⟩
    · exact ⟨g, ws, .within taken values inner, such⟩
    · exact ⟨f, vs, .call taken values, such⟩

/-- Only functions make calls. -/
theorem not_makes_of_ne {e : Expr} (other : ∀ f args, e ≠ .function f args) :
    ¬ t.Makes row kind e := by
  rintro ⟨f, vs, made, -⟩
  cases made with
  | call => exact other _ _ rfl
  | within => exact other _ _ rfl

theorem position_ne_overflow (t : Table) (path : ColumnPath) :
    t.position path ≠ .error .overflow := by
  unfold position
  split
  · simp
  · split <;> simp

mutual

/-- Evaluation overflows exactly if a call that is made does. -/
theorem eval_eq_overflow_iff (t : Table) (row : Row) (e : Expr) :
    t.eval row e = .error .overflow ↔ t.Makes row Func.Overflows e :=
  match e with
  | .function f args => by
    rw [makes_function, ← evalList_eq_overflow_iff, eval, bind_eq_error_iff, bind_eq_error_iff]
    constructor
    · rintro (stopped | ⟨⟨⟩, taken, out⟩)
      · exact absurd stopped (f.checkArguments_ne_overflow _)
      · exact ⟨taken, out⟩
    · rintro ⟨taken, out⟩
      exact .inr ⟨(), taken, out⟩
  | .constant c => iff_of_false (by simp [eval]) (not_makes_of_ne (by simp))
  | .column path => by
    refine iff_of_false ?_ (not_makes_of_ne (by simp))
    rw [eval, bind_eq_error_iff]
    rintro (stopped | ⟨_, -, ⟨⟩⟩)
    exact t.position_ne_overflow path stopped
  | .aggregate _ _ => iff_of_false (by simp [eval]) (not_makes_of_ne (by simp))

theorem evalList_eq_overflow_iff (t : Table) (row : Row) (args : List Expr) :
    t.evalList row args = .error .overflow ↔ t.MakesIn row Func.Overflows args :=
  match args with
  | [] => iff_of_false (by simp [evalList]) not_makesIn_nil
  | e :: rest => by
    rw [makesIn_cons, ← eval_eq_overflow_iff t row e, ← evalList_eq_overflow_iff t row rest,
      evalList, bind_eq_error_iff]
    simp only [bind_eq_error_iff]
    constructor
    · rintro (first | ⟨v, value, later | ⟨_, -, ⟨⟩⟩⟩)
      · exact .inl first
      · exact .inr ⟨⟨v, value⟩, later⟩
    · rintro (first | ⟨⟨v, value⟩, later⟩)
      · exact .inl first
      · exact .inr ⟨v, value, .inl later⟩

end

mutual

/-- Evaluation is the same when all operations are watched, but for texts that are too long. -/
theorem evalWatched_eq (t : Table) (row : Row) (e : Expr) (fits : ¬ t.Makes row Func.TooLong e) :
    t.evalWatched row e = t.eval row e :=
  match e, fits with
  | .function f args, fits => by
    rw [makes_function, not_and] at fits
    rw [evalWatched, eval]
    cases taken : f.checkArguments args.length with
    | error fault => rfl
    | ok =>
      obtain ⟨within, here⟩ := not_or.mp (fits taken)
      rw [evalListWatched_eq t row args within]
      change t.evalList row args >>= _ = t.evalList row args >>= _
      cases values : t.evalList row args with
      | error fault => rfl
      | ok vs => exact f.evalWatched_eq fun long => here ⟨vs, values, long⟩
  | .constant _, _ => rfl
  | .column _, _ => rfl
  | .aggregate _ _, _ => rfl

theorem evalListWatched_eq (t : Table) (row : Row) (args : List Expr)
    (fits : ¬ t.MakesIn row Func.TooLong args) :
    t.evalListWatched row args = t.evalList row args :=
  match args, fits with
  | [], _ => rfl
  | e :: rest, fits => by
    rw [makesIn_cons, not_or] at fits
    rw [evalListWatched, evalList, evalWatched_eq t row e fits.1]
    cases value : t.eval row e with
    | error fault => rfl
    | ok v =>
      rw [evalListWatched_eq t row rest fun later => fits.2 ⟨⟨v, value⟩, later⟩]

end

/-- Evaluation overflows exactly if `ABS` is called with the least integer. No other operation
leaves the range of integers, so that evaluation is the same with all of them watched, unless the
length of a text is asked for that no memory holds. The magnitude of any other integer is the exact
one. -/
theorem eval_overflows_iff (t : Table) (row : Row) (e : Expr) :
    (t.eval row e = .error .overflow ↔ t.Calls row e .abs [.int Int64.minValue]) ∧
      ((∀ v, t.Calls row e .length [v] → v.plainText.length < 9223372036854775808) →
        t.evalWatched row e = t.eval row e) ∧
        ∀ n, t.eval row e = .ok (.int n) →
          (t.eval row (.function .abs [e]) = .error .overflow ↔ n = Int64.minValue) ∧
            (n ≠ Int64.minValue → ∃ m, t.eval row (.function .abs [e]) = .ok (.int m) ∧
              m.toInt = n.toInt.natAbs) := by
  refine ⟨?_, fun short => ?_, fun n value => ?_⟩
  · rw [eval_eq_overflow_iff]
    constructor
    · rintro ⟨f, vs, made, out⟩
      obtain ⟨rfl, rfl⟩ := Func.overflows_iff.mp out
      exact made
    · exact fun made => ⟨_, _, made, Func.overflows_iff.mpr ⟨rfl, rfl⟩⟩
  · apply evalWatched_eq
    rintro ⟨_, _, made, rfl, v, rfl, long⟩
    exact absurd (short v made) (Nat.not_lt.mpr long)
  · have taken : Func.abs.checkArguments [e].length = .ok () := rfl
    have magnitude : t.eval row (.function .abs [e]) =
        if n = Int64.minValue then .error .overflow else .ok (.int n.abs) := by
      rw [eval, taken, evalList, value]
      rfl
    rw [magnitude]
    by_cases least : n = Int64.minValue
    · rw [if_pos least]
      exact ⟨iff_of_true rfl least, fun other => absurd least other⟩
    · rw [if_neg least]
      exact ⟨iff_of_false (by simp) least, fun _ => ⟨n.abs, rfl, toInt_abs_of_ne least⟩⟩

/-- A table of integers. -/
def numbers : Table := ⟨"Numbers", [.of "N" .integer], [[.int Int64.minValue]]⟩

/-- The least integer has no magnitude: evaluation neither has a value nor says why not. -/
theorem abs_of_least :
    numbers.rows = [[.int Int64.minValue]] ∧
      numbers.eval [.int Int64.minValue] (.function .abs [.column ⟨["N"]⟩]) =
        .error .overflow := by
  refine ⟨rfl, ?_⟩
  decide +kernel

end Table

end SqlScribe

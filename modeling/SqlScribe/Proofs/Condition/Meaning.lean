import SqlScribe.Proofs.Condition.Syntax
import SqlScribe.Table.Condition

/-!
# What a condition says

The three-valued meaning of a condition over a row of a table. A comparison with NULL is unknown,
and unknown goes through junctions and negations by the tables of Kleene. What does not matter any
more is not looked at, so that it cannot fail.
-/

namespace SqlScribe.Sql

/-- Both hold; `none` stands for unknown. -/
def Kleene.and : Option Bool → Option Bool → Option Bool
  | some false, _ => some false
  | _, some false => some false
  | some true, some true => some true
  | _, _ => none

/-- One of them holds. -/
def Kleene.or : Option Bool → Option Bool → Option Bool
  | some true, _ => some true
  | _, some true => some true
  | some false, some false => some false
  | _, _ => none

/-- A conjunction of something known and something that is looked at if need be. -/
def andThen (left : Option Bool) (right : Except Fault (Option Bool)) :
    Except Fault (Option Bool) :=
  if left = some false then .ok (some false) else Kleene.and left <$> right

/-- A disjunction of something known and something that is looked at if need be. -/
def orElse (left : Option Bool) (right : Except Fault (Option Bool)) :
    Except Fault (Option Bool) :=
  if left = some true then .ok (some true) else Kleene.or left <$> right

/-- Where both parts have a meaning, the conjunction has that of the table. -/
theorem andThen_ok (p q : Option Bool) : andThen p (.ok q) = .ok (Kleene.and p q) := by
  rcases p with _ | _ | _ <;> rcases q with _ | _ | _ <;> rfl

theorem orElse_ok (p q : Option Bool) : orElse p (.ok q) = .ok (Kleene.or p q) := by
  rcases p with _ | _ | _ <;> rcases q with _ | _ | _ <;> rfl

variable (t : Table) (row : Row)

/-- The value of an expression; a constant stands in for NULL where it was asked for. -/
def Scalar.eval : Scalar → Except Fault Value
  | expr e => t.eval row e
  | coalesced path fallback => do
    let v ← t.eval row (.column path)
    return if v.isNull then fallback.value else v

/-- A value and a constant compared. -/
def compared (v : Value) (op : Comparison) (c : Constant) : Except Fault (Option Bool) :=
  if v.isNull || c.isNull then .ok none
  else do return some (op.holds (← v.compareConverted c.value))

/-- A value is one of some constants: it equals the first one, or the next one, and so on. -/
def amongst (v : Value) : List Constant → Except Fault (Option Bool)
  | [] => .ok (some false)
  | c :: rest => do orElse (← compared v .eq c) (amongst v rest)

/-- The text looks as a pattern asks. -/
def LikePattern.holds (text : String) : LikePattern → Bool
  | startsWith start => Text.beginsWith start text
  | contains needle => Text.containsText needle text

/-- What a condition says about a row; `none` stands for unknown. -/
def Condition.verdict : Condition → Except Fault (Option Bool)
  | truth b => .ok (some b)
  | compare lhs op c => do compared (← lhs.eval t row) op c
  | isNull lhs negated => do return some ((← lhs.eval t row).isNull != negated)
  | oneOf lhs first others => do amongst (← lhs.eval t row) (first :: others)
  | like lhs pattern => do
    let v ← lhs.eval t row
    return if v.isNull then none else some (pattern.holds v.plainText)
  | between lhs low high => do
    let v ← lhs.eval t row
    andThen (← compared v .ge low) (compared v .le high)
  | enclosed inner => inner.verdict
  | not inner => do return (← inner.verdict).map (!·)
  | and left right => do andThen (← left.verdict) right.verdict
  | or left right => do orElse (← left.verdict) right.verdict

end SqlScribe.Sql

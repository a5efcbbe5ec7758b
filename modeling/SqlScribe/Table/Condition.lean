import SqlScribe.Query.Select
import SqlScribe.Table.Evaluation
import SqlScribe.Value.Order

/-!
# Testing conditions

A condition on a row is true, false or unknown. A comparison with NULL is unknown, and only rows
for which a condition is true are kept.
-/

namespace SqlScribe

open SqlScribe.Text

namespace Value

/-- The order of two values, the second converted to the type of the first if they have none as they
are. -/
def compareConverted (v w : Value) : Except Fault Ordering :=
  match v.compare? w with
  | some order => .ok order
  | none => do
    match v.compare? (← w.convert v.columnType) with
    | some order => return order
    | none => .error (.invalid (.incomparable v w))

end Value

namespace Filter

/-- A comparison of a value with a constant that is not NULL. -/
def testCompare (v : Value) (op : Comparison) (c : Constant) : Except Fault (Option Bool) :=
  if v.isNull then .ok (if op = .ne then some true else none)
  else do return some (op.holds (← v.compareConverted c.value))

/-- A comparison of a value with NULL. -/
def testCompareNull (v : Value) (op : Comparison) : Bool :=
  match op with
  | .eq => v.isNull
  | .ne => !v.isNull
  | _ => false

/-- Some constant of a list equals a value; NULL among the constants is passed over. -/
def anyEqual (v : Value) : List Constant → Except Fault Bool
  | [] => .ok false
  | c :: rest =>
    if c.isNull then anyEqual v rest
    else do
      if (← v.compareConverted c.value) == .eq then return true
      anyEqual v rest

/-- Membership of a value in a list. -/
def testOneOf (v : Value) (values : List Constant) : Except Fault (Option Bool) :=
  if v.isNull then
    .ok (if values.any (·.isNull) then some true
      else if values.isEmpty then some false
      else none)
  else some <$> anyEqual v values

/-- Membership of a value in an interval with both its ends. -/
def testBetween (v : Value) (low high : Constant) : Except Fault (Option Bool) :=
  if v.isNull then .ok none
  else do
    if (← v.compareConverted low.value) == .lt then return some false
    return some ((← v.compareConverted high.value) != .gt)

end Filter

namespace Table

mutual

/-- What a condition says about a row; `none` stands for unknown. -/
def test (t : Table) (row : Row) : Filter → Except Fault (Option Bool)
  | .compare e op c nullAsDefault => do
    if c.isNull then return some (Filter.testCompareNull (← t.eval row e) op)
    let v ← if nullAsDefault then t.evalOrDefault row e c.type else t.eval row e
    Filter.testCompare v op c
  | .compareNull e negated => do return some ((← t.eval row e).isNull != negated)
  | .oneOf e values => do Filter.testOneOf (← t.eval row e) values
  | .startsWith e start => do
    let v ← t.eval row e
    return if v.isNull then none else some (beginsWith start v.plainText)
  | .contains e needle => do
    let v ← t.eval row e
    return if v.isNull then none else some (containsText needle v.plainText)
  | .inSubquery _ _ => .error (.unsupported engineName .inSubquery)
  | .between e low high => do
    if low.isNull || high.isNull then .error (.invalid .nullBound)
    Filter.testBetween (← t.eval row e) low high
  | .constant b => .ok (some b)
  | .and parts => t.testAll row (some true) parts
  | .or parts => t.testAny row (some false) parts
  | .not part => do return (← t.test row part).map (!·)

/-- A conjunction, `seen` being what its parts have said so far; it ends at the first false one. -/
def testAll (t : Table) (row : Row) (seen : Option Bool) :
    List Filter → Except Fault (Option Bool)
  | [] => .ok seen
  | f :: rest => do
    match ← t.test row f with
    | some false => return some false
    | some true => t.testAll row seen rest
    | none => t.testAll row none rest

/-- A disjunction, `seen` being what its parts have said so far; it ends at the first true one. -/
def testAny (t : Table) (row : Row) (seen : Option Bool) :
    List Filter → Except Fault (Option Bool)
  | [] => .ok seen
  | f :: rest => do
    match ← t.test row f with
    | some true => return some true
    | some false => t.testAny row seen rest
    | none => t.testAny row none rest

end

/-- The rows for which a condition is true. -/
def keep (t : Table) (f : Filter) : List Row → Except Fault (List Row)
  | [] => .ok []
  | row :: rest => do
    let verdict ← t.test row f
    let kept ← t.keep f rest
    return if verdict == some true then row :: kept else kept

/-- The rows of the table for which a condition is true. -/
def filter (t : Table) (f : Filter) : Except Fault (List Row) := t.keep f t.rows

end Table

end SqlScribe

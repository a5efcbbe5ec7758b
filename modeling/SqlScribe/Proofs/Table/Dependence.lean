import Mathlib.Tactic.Common
import SqlScribe.Proofs.Statement.Script
import SqlScribe.Table.Condition

/-!
# What a verdict depends on

An expression, and so a condition, says of itself which columns it reads. Two rows that agree in
these columns cannot be told apart by it: they get the same value or verdict, or the same fault.
-/

namespace SqlScribe

open SqlScribe.Text

/-- A path that names the column alone is the name of the column. -/
theorem ColumnPath.fullName_of_unqualified {path : ColumnPath} (bare : path.isQualified = false) :
    path.fullName = path.name := by
  obtain ⟨parts⟩ := path
  obtain _ | ⟨part, _ | ⟨second, rest⟩⟩ := parts
  · rfl
  · simp [fullName, name, join]
  · simp [isQualified] at bare

/-- Two rows have the same cells in every column of a table that goes by one of some names, the case
of letters disregarded. A cell that a row lacks is NULL. -/
def Row.AgreeOn (t : Table) (names : List String) (row other : Row) : Prop :=
  ∀ (i : Nat) (c : Column), t.columns[i]? = some c →
    (∃ name ∈ names, sameName c.name name = true) → row[i]?.getD .null = other[i]?.getD .null

namespace Row.AgreeOn

variable {t : Table} {row other : Row} {names more : List String}

theorem left (h : row.AgreeOn t (names ++ more) other) : row.AgreeOn t names other := by
  rintro i c column ⟨name, member, same⟩
  exact h i c column ⟨name, List.mem_append_left more member, same⟩

theorem right (h : row.AgreeOn t (names ++ more) other) : row.AgreeOn t more other := by
  rintro i c column ⟨name, member, same⟩
  exact h i c column ⟨name, List.mem_append_right names member, same⟩

end Row.AgreeOn

namespace Table

variable {t : Table} {row other : Row}

/-- The place of a column is that of the first one of its name. -/
theorem position_eq_ok {path : ColumnPath} {i : Nat} (found : t.position path = .ok i) :
    ∃ c, t.columns[i]? = some c ∧
      (t.columns.find? fun c => sameName c.name path.name) = some c := by
  unfold position at found
  split at found
  · cases found
  split at found
  · rename_i first
    cases found
    obtain ⟨inside, here, before⟩ := List.findIdx?_eq_some_iff_getElem.mp first
    refine ⟨_, List.getElem?_eq_getElem inside, ?_⟩
    exact List.find?_eq_some_iff_getElem.mpr ⟨here, _, inside, rfl, by simpa using before⟩
  · cases found

theorem unqualified_of_position {path : ColumnPath} {i : Nat} (found : t.position path = .ok i) :
    path.isQualified = false := by
  unfold position at found
  split at found
  · cases found
  · rename_i bare
    exact Bool.eq_false_iff.mpr bare

/-- A column that is found is found under the name by which the path goes as a whole. -/
theorem cell_of_agree {path : ColumnPath} {i : Nat} (found : t.position path = .ok i)
    (agree : row.AgreeOn t [path.fullName] other) :
    row[i]?.getD .null = other[i]?.getD .null := by
  obtain ⟨c, column, first⟩ := position_eq_ok found
  have same := List.find?_some first
  refine agree i c column ⟨path.fullName, List.mem_singleton_self _, ?_⟩
  rwa [ColumnPath.fullName_of_unqualified (unqualified_of_position found)]

mutual

theorem eval_of_agree :
    (e : Expr) → row.AgreeOn t e.columns other → t.eval row e = t.eval other e
  | .constant _, _ => by rw [eval, eval]
  | .column path, agree => by
    rw [eval, eval]
    cases found : t.position path with
    | error fault => rfl
    | ok i => exact congrArg Except.ok (cell_of_agree found agree)
  | .function f args, agree => by rw [eval, eval, evalList_of_agree args agree]
  | .aggregate _ _, _ => by rw [eval, eval]

theorem evalList_of_agree : (es : List Expr) → row.AgreeOn t (Expr.columnsOf es) other →
    t.evalList row es = t.evalList other es
  | [], _ => by rw [evalList, evalList]
  | e :: rest, agree => by
    rw [evalList, evalList, eval_of_agree e agree.left, evalList_of_agree rest agree.right]

end

theorem evalOrDefault_of_agree {e : Expr} (type : ColumnType)
    (agree : row.AgreeOn t e.columns other) :
    t.evalOrDefault row e type = t.evalOrDefault other e type := by
  rw [evalOrDefault, evalOrDefault, eval_of_agree e agree]

mutual

theorem test_of_agree :
    (f : Filter) → row.AgreeOn t f.columns other → t.test row f = t.test other f
  | .compare e op c nullAsDefault, agree => by
    rw [test, test, eval_of_agree e agree, evalOrDefault_of_agree c.type agree]
  | .compareNull e negated, agree => by rw [test, test, eval_of_agree e agree]
  | .oneOf e values, agree => by rw [test, test, eval_of_agree e agree]
  | .startsWith e start, agree => by rw [test, test, eval_of_agree e agree]
  | .contains e needle, agree => by rw [test, test, eval_of_agree e agree]
  | .inSubquery e subquery, _ => by rw [test, test]
  | .between e low high, agree => by rw [test, test, eval_of_agree e agree]
  | .constant b, _ => by rw [test, test]
  | .and parts, agree => by rw [test, test, testAll_of_agree parts agree]
  | .or parts, agree => by rw [test, test, testAny_of_agree parts agree]
  | .not part, agree => by rw [test, test, test_of_agree part agree]

/-- The verdicts of the parts are the same, so the walk over them ends at the same part. -/
theorem testAll_of_agree : (fs : List Filter) → row.AgreeOn t (Filter.columnsOf fs) other →
    ∀ {seen : Option Bool}, t.testAll row seen fs = t.testAll other seen fs
  | [], _, _ => by rw [testAll, testAll]
  | f :: rest, agree, _ => by
    simp only [testAll, test_of_agree f agree.left, testAll_of_agree rest agree.right]

theorem testAny_of_agree : (fs : List Filter) → row.AgreeOn t (Filter.columnsOf fs) other →
    ∀ {seen : Option Bool}, t.testAny row seen fs = t.testAny other seen fs
  | [], _, _ => by rw [testAny, testAny]
  | f :: rest, agree, _ => by
    simp only [testAny, test_of_agree f agree.left, testAny_of_agree rest agree.right]

end

end Table

/-- Two rows that agree in the columns that an expression or a condition reads have the same value
or verdict, and where it fails it fails for both with the same fault. -/
theorem Row.indistinguishable (t : Table) (row other : Row) :
    (∀ e : Expr, row.AgreeOn t e.columns other → t.eval row e = t.eval other e) ∧
      ∀ f : Filter, row.AgreeOn t f.columns other → t.test row f = t.test other f :=
  ⟨Table.eval_of_agree, Table.test_of_agree⟩

/-- A table of parcels. -/
def parcels : Table :=
  ⟨"Parcels", [.of "Id" .integer, .of "Sender" .string, .of "Weight" .integer], []⟩

/-- The sender of a parcel, where known. -/
def senderOrNobody : Expr :=
  .function .coalesce [.column ⟨["Sender"]⟩, .constant ⟨.string "nobody", .string⟩]

/-- Parcels of some senders that are not known to be light. -/
def heavyParcels : Filter :=
  .and [.startsWith senderOrNobody "Ann",
    .not (.compare (.column ⟨["Weight"]⟩) .le (.ofInt 5) false)]

/-- The first two parcels differ in their numbers, of which the condition says nothing. -/
theorem Row.indistinguishable_parcels :
    Row.AgreeOn parcels heavyParcels.columns [.int 1, .string "Anna", .int 7]
        [.int 2, .string "Anna", .int 7] ∧
      parcels.test [.int 2, .string "Anna", .int 7] heavyParcels = .ok (some true) ∧
      Row.AgreeOn parcels senderOrNobody.columns [.int 1, .string "Anna", .null]
        [.int 2, .string "Anna"] ∧
      parcels.eval [.int 2, .string "Anna"] senderOrNobody = .ok (.string "Anna") := by
  have agreeing {names : List String} {row other : Row}
      (silent : names.any (sameName "Id") = false)
      (sender : row[1]?.getD .null = other[1]?.getD .null)
      (weight : row[2]?.getD .null = other[2]?.getD .null) : row.AgreeOn parcels names other := by
    rintro (_ | _ | _ | _) c column ⟨name, member, same⟩
    · cases column
      exact absurd same (List.any_eq_false.mp silent name member)
    · exact sender
    · exact weight
    · cases column
  have heavy : Row.AgreeOn parcels heavyParcels.columns [.int 1, .string "Anna", .int 7]
      [.int 2, .string "Anna", .int 7] := agreeing (by decide +kernel) rfl rfl
  have named : Row.AgreeOn parcels senderOrNobody.columns [.int 1, .string "Anna", .null]
      [.int 2, .string "Anna"] := agreeing (by decide +kernel) rfl rfl
  have firstHeavy : parcels.test [.int 1, .string "Anna", .int 7] heavyParcels =
      .ok (some true) := by
    decide +kernel
  have firstNamed : parcels.eval [.int 1, .string "Anna", .null] senderOrNobody =
      .ok (.string "Anna") := by
    decide +kernel
  exact ⟨heavy, ((Row.indistinguishable parcels _ _).2 heavyParcels heavy).symm.trans firstHeavy,
    named, ((Row.indistinguishable parcels _ _).1 senderOrNobody named).symm.trans firstNamed⟩

end SqlScribe

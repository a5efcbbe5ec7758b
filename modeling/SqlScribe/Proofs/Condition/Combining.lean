import SqlScribe.Proofs.Condition.Filters
import SqlScribe.Proofs.Query.Steps

/-!
# Combining filters

Conjunctions and disjunctions are merged into flat lists, and negations cancel. The filter that
results says what its parts say, looked at from left to right: a part behind one that settles the
verdict is not looked at, so that it cannot fail, and any other failure is kept. So however the
conditions of a query are grouped and wherever in its construction they are added, they are asked
together and in the order in which they were given.
-/

namespace SqlScribe

open Sql

namespace Sql

theorem andThen_assoc (p q : Option Bool) (r : Except Fault (Option Bool)) :
    (do andThen (← andThen p (.ok q)) r) = andThen p (andThen q r) := by
  rcases p with _ | _ | _ <;> rcases q with _ | _ | _ <;> rcases r with _ | _ | _ | _ <;> rfl

/-- What does not look at its second part does not depend on how that part ends. -/
theorem andThen_bind (p : Option Bool) (q r : Except Fault (Option Bool)) :
    (do andThen (← andThen p q) r) = andThen p (do andThen (← q) r) := by
  cases q with
  | ok q => exact andThen_assoc p q r
  | error fault => rcases p with _ | _ | _ <;> rfl

theorem orElse_bind (p : Option Bool) (q r : Except Fault (Option Bool)) :
    (do orElse (← orElse p q) r) = orElse p (do orElse (← q) r) := by
  cases q with
  | ok q => exact orElse_assoc p q r
  | error fault => rcases p with _ | _ | _ <;> rfl

end Sql

namespace Table

variable (t : Table) (row : Row)

/-- What conditions say together, each looked at unless one in front of it is false. -/
def allOf : List Filter → Except Fault (Option Bool)
  | [] => .ok (some true)
  | f :: rest => do andThen (← t.test row f) (allOf rest)

/-- What conditions say of which one is enough, each looked at unless one in front of it is true. -/
def anyOf : List Filter → Except Fault (Option Bool)
  | [] => .ok (some false)
  | f :: rest => do orElse (← t.test row f) (anyOf rest)

variable {t row}

theorem test_and (fs : List Filter) : t.test row (.and fs) = t.allOf row fs := by
  rw [test]
  induction fs with
  | nil => rw [testAll, allOf]
  | cons f rest ih => rw [testAll_cons, ih, allOf]

theorem test_or (fs : List Filter) : t.test row (.or fs) = t.anyOf row fs := by
  rw [test]
  induction fs with
  | nil => rw [testAny, anyOf]
  | cons f rest ih => rw [testAny_cons, ih, anyOf]

theorem allOf_single (f : Filter) : t.allOf row [f] = t.test row f := by
  rw [allOf, allOf]
  cases t.test row f with
  | error fault => rfl
  | ok p => exact andThen_true p

theorem anyOf_single (f : Filter) : t.anyOf row [f] = t.test row f := by
  rw [anyOf, anyOf]
  cases t.test row f with
  | error fault => rfl
  | ok p => exact orElse_false p

theorem allOf_append (fs gs : List Filter) :
    t.allOf row (fs ++ gs) = (do andThen (← t.allOf row fs) (t.allOf row gs)) := by
  induction fs with
  | nil => exact (true_andThen _).symm
  | cons f rest ih =>
    rw [List.cons_append, allOf, allOf, ih]
    cases t.test row f with
    | error fault => rfl
    | ok p => exact (andThen_bind p _ _).symm

theorem anyOf_append (fs gs : List Filter) :
    t.anyOf row (fs ++ gs) = (do orElse (← t.anyOf row fs) (t.anyOf row gs)) := by
  induction fs with
  | nil => exact (false_orElse _).symm
  | cons f rest ih =>
    rw [List.cons_append, anyOf, anyOf, ih]
    cases t.test row f with
    | error fault => rfl
    | ok p => exact (orElse_bind p _ _).symm

theorem test_conjoin (f g : Filter) :
    t.test row (f.conjoin g) = (do andThen (← t.test row f) (t.test row g)) := by
  unfold Filter.conjoin
  split
  · rw [test_and, test_and, test_and, allOf_append]
  · rw [test_and, test_and, allOf_append, allOf_single]
  · rw [test_and, test_and, allOf]
  · rw [test_and, allOf, allOf_single]

theorem test_disjoin (f g : Filter) :
    t.test row (f.disjoin g) = (do orElse (← t.test row f) (t.test row g)) := by
  unfold Filter.disjoin
  split
  · rw [test_or, test_or, test_or, anyOf_append]
  · rw [test_or, test_or, anyOf_append, anyOf_single]
  · rw [test_or, test_or, anyOf]
  · rw [test_or, anyOf, anyOf_single]

theorem test_negate (f : Filter) :
    t.test row f.negate = (do return (← t.test row f).map (!·)) := by
  unfold Filter.negate
  split
  · rename_i f
    rw [test]
    rcases t.test row f with _ | _ | _ | _ <;> rfl
  · rw [test, test]
    rfl
  · rw [test]

end Table

/-- A filter into which a list of conditions is joined, two at a time and in some grouping. -/
inductive Filter.Joins : List Filter → Filter → Prop
  | single (f : Filter) : Joins [f] f
  | both {fs gs : List Filter} {f g : Filter} (left : Joins fs f) (right : Joins gs g) :
      Joins (fs ++ gs) (f.conjoin g)

/-- The grouping does not matter. -/
theorem Filter.Joins.test {fs : List Filter} {f : Filter} (h : f.Joins fs) (t : Table) (row : Row) :
    t.test row f = t.allOf row fs := by
  induction h with
  | single f => exact (Table.allOf_single f).symm
  | both _ _ left right => rw [Table.test_conjoin, Table.allOf_append, left, right]

/-- What an optional filter says of every row is what a list of conditions says together; no filter
stands for no condition. -/
def Filter.MeansAll (fs : List Filter) : Option Filter → Prop
  | none => fs = []
  | some f => ∀ (t : Table) (row : Row), t.test row f = t.allOf row fs

namespace Draft

variable {d d' : Draft}

/-- A step in building a query that adds no condition. -/
inductive Shapes : Draft → Draft → Prop
  | withAlias {d d' : Draft} {name : String} (made : d.withAlias name = .ok d') : Shapes d d'
  | withNamed {d d' : Draft} {n : NamedExpr} (made : d.withNamed n = .ok d') : Shapes d d'
  | withGroupBy (d : Draft) (e : Expr) : Shapes d (d.withGroupBy e)
  | inferGroupBy {d d' : Draft} (made : d.inferGroupBy = .ok d') : Shapes d d'
  | withOrder (d : Draft) (order : Order) : Shapes d (d.withOrder order)
  | withOrderBy (d : Draft) (e : Expr) (direction : Direction) :
      Shapes d (d.withOrderBy e direction)
  | withMaxRows {d d' : Draft} {count : Int64} (made : d.withMaxRows count = .ok d') : Shapes d d'
  | withDistinct (d : Draft) : Shapes d d.withDistinct

/-- Two queries under construction have the same conditions. -/
structure SameConditions (d d' : Draft) : Prop where
  filter : d'.query.filter = d.query.filter
  having : d'.query.having = d.query.having

theorem Shapes.sameConditions (h : d.Shapes d') : d.SameConditions d' := by
  cases h with
  | withAlias made =>
    obtain ⟨-, rfl⟩ := withAlias_eq_ok.mp made
    exact ⟨rfl, rfl⟩
  | withNamed made =>
    obtain ⟨-, rfl⟩ := withNamed_eq_ok.mp made
    exact ⟨rfl, rfl⟩
  | withGroupBy e =>
    rw [withGroupBy_eq]
    exact ⟨rfl, rfl⟩
  | inferGroupBy made =>
    obtain ⟨-, -, groups, -, rfl⟩ := inferGroupBy_eq_ok.mp made
    exact ⟨rfl, rfl⟩
  | withOrder => exact ⟨rfl, rfl⟩
  | withOrderBy => exact ⟨rfl, rfl⟩
  | withMaxRows made =>
    obtain ⟨-, rfl⟩ := withMaxRows_eq_ok.mp made
    exact ⟨rfl, rfl⟩
  | withDistinct => exact ⟨rfl, rfl⟩

/-- The conditions on rows and those on groups that were asked for while a query was built, in any
grouping and with any other steps in between. -/
inductive Asks : List Filter → List Filter → Draft → Prop
  | start {table : String} {d : Draft} (made : start table = .ok d) : Asks [] [] d
  | shaped {fs hs : List Filter} {d d' : Draft} (before : Asks fs hs d) (step : d.Shapes d') :
      Asks fs hs d'
  | withFilter {fs gs hs : List Filter} {g : Filter} {d : Draft} (before : Asks fs hs d)
      (joined : g.Joins gs) : Asks (fs ++ gs) hs (d.withFilter g)
  | withHaving {fs gs hs : List Filter} {g : Filter} {d : Draft} (before : Asks fs hs d)
      (joined : g.Joins gs) : Asks fs (hs ++ gs) (d.withHaving g)

/-- One more condition is asked for behind those that are there. -/
theorem meansAll_added {fs gs : List Filter} {present added : Option Filter} {g : Filter}
    (h : Filter.MeansAll fs present) (joined : g.Joins gs) (first : present = none → added = some g)
    (further : ∀ f, present = some f → added = some (f.conjoin g)) :
    Filter.MeansAll (fs ++ gs) added := by
  cases present with
  | none =>
    obtain rfl : fs = [] := h
    rw [first rfl]
    exact joined.test
  | some f =>
    rw [further f rfl]
    intro t row
    rw [Table.test_conjoin, Table.allOf_append, h t row, joined.test t row]

theorem Asks.meansAll {fs hs : List Filter} (h : Asks fs hs d) :
    Filter.MeansAll fs d.query.filter ∧ Filter.MeansAll hs d.query.having := by
  induction h with
  | start made =>
    unfold Draft.start at made
    split at made
    · cases made
    · cases made
      exact ⟨rfl, rfl⟩
  | shaped _ step ih =>
    have same := step.sameConditions
    rw [same.filter, same.having]
    exact ih
  | withFilter _ joined ih =>
    refine ⟨meansAll_added ih.1 joined ?_ ?_, ih.2⟩
    · intro absent
      simp only [Draft.withFilter, absent]
    · intro f found
      simp only [Draft.withFilter, found]
  | withHaving _ joined ih =>
    refine ⟨ih.1, meansAll_added ih.2 joined ?_ ?_⟩
    · intro absent
      simp only [Draft.withHaving, absent]
    · intro f found
      simp only [Draft.withHaving, found]

end Draft

/-- A conjunction, a disjunction and a negation of filters say of every row what the tables of
Kleene make of the verdicts of their parts, failures included, the second part being looked at only
if the first does not settle the verdict. So a query says of every row what all conditions say
together that were asked for while it was built, one after the other, however they were grouped. -/
theorem Filter.combined_test (t : Table) (row : Row) :
    (∀ f g : Filter, t.test row (f.conjoin g) = (do andThen (← t.test row f) (t.test row g))) ∧
    (∀ f g : Filter, t.test row (f.disjoin g) = (do orElse (← t.test row f) (t.test row g))) ∧
    (∀ f : Filter, t.test row f.negate = (do return (← t.test row f).map (!·))) ∧
    (∀ fs f, Filter.Joins fs f → t.test row f = t.allOf row fs) ∧
    ∀ fs hs d, Draft.Asks fs hs d →
      Filter.MeansAll fs d.query.filter ∧ Filter.MeansAll hs d.query.having :=
  ⟨Table.test_conjoin, Table.test_disjoin, Table.test_negate, fun _ _ joined => joined.test t row,
    fun _ _ _ asked => asked.meansAll⟩

/-- Members without a name. -/
def nameMissing : Filter := .compareNull (.column ⟨["Name"]⟩) false

/-- Members other than the first one. -/
def notTheFirst : Filter := .compare (.column ⟨["Id"]⟩) .ne (.ofInt 1) false

/-- A condition on a column of another table, which cannot be evaluated. -/
def groupMissing : Filter := .compareNull (.column ⟨["Groups", "Name"]⟩) false

/-- The second condition is false for the first member, so the third one does not fail. -/
theorem Filter.combined_test_members :
    ∃ d f, Draft.Asks [nameMissing, notTheFirst, groupMissing] [] d ∧ d.query.filter = some f ∧
      members.test [.int 1, .null] f = .ok (some false) ∧
      members.test [.int 1, .null] groupMissing =
        .error (.unsupported "DataView" (.qualifiedColumn "Groups.Name")) := by
  obtain ⟨d, made⟩ : ∃ d, Draft.start "Members" = .ok d := ⟨_, rfl⟩
  have bare : d.query.filter = none := by
    cases made
    rfl
  have pair : (nameMissing.conjoin notTheFirst).Joins [nameMissing, notTheFirst] :=
    .both (.single nameMissing) (.single notTheFirst)
  have asked : Draft.Asks [nameMissing, notTheFirst, groupMissing] []
      (((d.withFilter (nameMissing.conjoin notTheFirst)).withDistinct).withFilter groupMissing) :=
    .withFilter (.shaped (.withFilter (.start made) pair) (.withDistinct _)) (.single groupMissing)
  have found : (((d.withFilter (nameMissing.conjoin notTheFirst)).withDistinct).withFilter
      groupMissing).query.filter = some (.and [nameMissing, notTheFirst, groupMissing]) := by
    simp only [Draft.withFilter, Draft.withDistinct, bare]
    rfl
  refine ⟨_, _, asked, found, ?_, by decide +kernel⟩
  have meaning := ((Filter.combined_test members [.int 1, .null]).2.2.2.2 _ _ _ asked).1
  rw [found] at meaning
  rw [meaning members [.int 1, .null]]
  decide +kernel

end SqlScribe

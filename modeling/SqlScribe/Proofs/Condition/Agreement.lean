import SqlScribe.Proofs.Condition.Emission
import SqlScribe.Proofs.Condition.Meaning

/-!
# Filters and their conditions agree

What a filter says about a row of a table is what the condition says that the filter is written as.
-/

namespace SqlScribe

open Sql

namespace Sql

/-! ## Junctions -/

variable (t : Table) (row : Row)

/-- The conjunction of what conditions say. -/
def verdictAll : List Condition → Except Fault (Option Bool)
  | [] => .ok (some true)
  | c :: rest => do andThen (← c.verdict t row) (verdictAll rest)

/-- The disjunction of what conditions say. -/
def verdictAny : List Condition → Except Fault (Option Bool)
  | [] => .ok (some false)
  | c :: rest => do orElse (← c.verdict t row) (verdictAny rest)

theorem andThen_true (p : Option Bool) : andThen p (.ok (some true)) = .ok p := by
  rw [andThen_ok]
  rcases p with _ | _ | _ <;> rfl

theorem orElse_false (p : Option Bool) : orElse p (.ok (some false)) = .ok p := by
  rw [orElse_ok]
  rcases p with _ | _ | _ <;> rfl

theorem true_andThen (r : Except Fault (Option Bool)) : andThen (some true) r = r := by
  rcases r with _ | _ | _ | _ <;> rfl

theorem false_orElse (r : Except Fault (Option Bool)) : orElse (some false) r = r := by
  rcases r with _ | _ | _ | _ <;> rfl

theorem orElse_assoc (p q : Option Bool) (r : Except Fault (Option Bool)) :
    (do orElse (← orElse p (.ok q)) r) = orElse p (orElse q r) := by
  rcases p with _ | _ | _ <;> rcases q with _ | _ | _ <;> rcases r with _ | _ | _ | _ <;> rfl

theorem verdict_chain_and (first : Condition) (rest : List Condition) :
    (chain .and first rest).verdict t row = verdictAll t row (first :: rest) := by
  induction rest generalizing first with
  | nil =>
    rw [chain, verdictAll]
    cases first.verdict t row with
    | error f => rfl
    | ok p => exact (andThen_true p).symm
  | cons next rest ih =>
    rw [chain, Condition.verdict, ih]
    rfl

theorem verdict_chain_or (first : Condition) (rest : List Condition) :
    (chain .or first rest).verdict t row = verdictAny t row (first :: rest) := by
  induction rest generalizing first with
  | nil =>
    rw [chain, verdictAny]
    cases first.verdict t row with
    | error f => rfl
    | ok p => exact (orElse_false p).symm
  | cons next rest ih =>
    rw [chain, Condition.verdict, ih]
    rfl

theorem verdict_junction_and (parts : List Condition) :
    (junction .and true parts).verdict t row = verdictAll t row parts := by
  cases parts with
  | nil => rfl
  | cons first rest =>
    rw [← verdict_chain_and]
    cases rest <;> rfl

theorem verdict_junction_or (parts : List Condition) :
    (junction .or false parts).verdict t row = verdictAny t row parts := by
  cases parts with
  | nil => rfl
  | cons first rest =>
    rw [← verdict_chain_or]
    cases rest <;> rfl

theorem verdict_enclosedFor (d : Dialect) (c : Condition) :
    (enclosedFor d c).verdict t row = c.verdict t row := by
  unfold enclosedFor
  split <;> rfl

end Sql

namespace Table

variable {t : Table} {row : Row}

/-- What was unknown before makes the conjunction unknown unless a further part is false. -/
theorem testAll_unknown (parts : List Filter) :
    t.testAll row none parts = andThen none (t.testAll row (some true) parts) := by
  induction parts with
  | nil => rfl
  | cons f rest ih =>
    rw [testAll, testAll]
    cases t.test row f with
    | error e => rfl
    | ok p =>
      rcases p with _ | _ | _
      · change t.testAll row none rest = andThen none (t.testAll row none rest)
        rw [ih]
        rcases t.testAll row (some true) rest with _ | _ | _ | _ <;> rfl
      · rfl
      · exact ih

theorem testAny_unknown (parts : List Filter) :
    t.testAny row none parts = orElse none (t.testAny row (some false) parts) := by
  induction parts with
  | nil => rfl
  | cons f rest ih =>
    rw [testAny, testAny]
    cases t.test row f with
    | error e => rfl
    | ok p =>
      rcases p with _ | _ | _
      · change t.testAny row none rest = orElse none (t.testAny row none rest)
        rw [ih]
        rcases t.testAny row (some false) rest with _ | _ | _ | _ <;> rfl
      · exact ih
      · rfl

theorem testAll_cons (f : Filter) (rest : List Filter) :
    t.testAll row (some true) (f :: rest) =
      (do andThen (← t.test row f) (t.testAll row (some true) rest)) := by
  rw [testAll]
  cases t.test row f with
  | error e => rfl
  | ok p =>
    rcases p with _ | _ | _
    · exact testAll_unknown rest
    · rfl
    · exact (true_andThen _).symm

theorem testAny_cons (f : Filter) (rest : List Filter) :
    t.testAny row (some false) (f :: rest) =
      (do orElse (← t.test row f) (t.testAny row (some false) rest)) := by
  rw [testAny]
  cases t.test row f with
  | error e => rfl
  | ok p =>
    rcases p with _ | _ | _
    · exact testAny_unknown rest
    · exact (false_orElse _).symm
    · rfl

end Table

/-! ## Comparisons -/

namespace Sql

variable {t : Table} {row : Row} {e : Expr} {v : Value}

theorem compared_null (null : v.isNull = true) (op : Comparison) (c : Constant) :
    compared v op c = .ok none := by
  simp [compared, null]

/-- Between values that are not NULL, the evaluator compares as the condition does. -/
theorem compared_eq_testCompare (known : v.isNull = false) {c : Constant} (given : c.isNull = false)
    (op : Comparison) : compared v op c = Filter.testCompare v op c := by
  simp [compared, Filter.testCompare, known, given]

/-- The left side of a comparison has the value that the evaluator gives it. -/
theorem comparedSide_eval (t : Table) (row : Row) (e : Expr) (nullAsDefault : Bool)
    (type : ColumnType) :
    (comparedSide e nullAsDefault type).eval t row =
      if nullAsDefault then t.evalOrDefault row e type else t.eval row e := by
  cases nullAsDefault with
  | false => rfl
  | true =>
    rw [if_pos rfl, Table.evalOrDefault]
    cases e with
    | column path => simp [comparedSide, Expr.asColumn?, Scalar.eval]
    | _ => simp [comparedSide, Expr.asColumn?, Scalar.eval]

/-- A comparison with NULL is a question for NULL. -/
theorem compareCondition_null (evaluated : t.eval row e = .ok v) (op : Comparison) {c : Constant}
    (null : c.isNull = true) (nullAsDefault : Bool) :
    (compareCondition e op c nullAsDefault).verdict t row =
      .ok (some (Filter.testCompareNull v op)) := by
  unfold compareCondition
  rw [if_pos null]
  cases op with
  | eq =>
    change (do return some ((← t.eval row e).isNull != false)) = _
    rw [evaluated, Filter.testCompareNull]
    change Except.ok (some (v.isNull != false)) = _
    cases v.isNull <;> rfl
  | ne =>
    change (do return some ((← t.eval row e).isNull != true)) = _
    rw [evaluated, Filter.testCompareNull]
    change Except.ok (some (v.isNull != true)) = _
    cases v.isNull <;> rfl
  | _ => rfl

/-- `<>` also accepts NULL, so that it is never unknown. -/
theorem compareCondition_different (evaluated : t.eval row e = .ok v) {c : Constant}
    (given : c.isNull = false) :
    (compareCondition e .ne c false).verdict t row = Filter.testCompare v .ne c := by
  unfold compareCondition
  rw [if_neg (by simp [given]), if_pos ⟨rfl, rfl⟩]
  simp only [Condition.verdict, Scalar.eval, evaluated]
  change (do orElse (← compared v .ne c) (.ok (some (v.isNull != false)))) = _
  cases known : v.isNull with
  | true =>
    rw [compared_null known, Filter.testCompare, if_pos known]
    rfl
  | false =>
    rw [compared_eq_testCompare known given]
    cases Filter.testCompare v .ne c with
    | error f => rfl
    | ok p => exact orElse_false p

/-- Any other comparison is one of the left side, which is unknown if that is NULL. -/
theorem compareCondition_side {op : Comparison} {c : Constant} {nullAsDefault : Bool}
    (given : c.isNull = false) (plain : ¬ (op = .ne ∧ nullAsDefault = false))
    (evaluated : (if nullAsDefault then t.evalOrDefault row e c.type else t.eval row e) = .ok v) :
    (compareCondition e op c nullAsDefault).verdict t row = compared v op c := by
  unfold compareCondition
  rw [if_neg (by simp [given]), if_neg (by simpa using plain)]
  simp only [Condition.verdict, comparedSide_eval, evaluated]
  rfl

/-- The only comparison that the evaluator decides for a NULL on the left is `<>`. -/
theorem testCompare_eq_compared {op : Comparison} {c : Constant} (given : c.isNull = false) :
    Filter.testCompare v op c = compared v op c ↔ ¬ (op = .ne ∧ v.isNull = true) := by
  cases known : v.isNull with
  | true =>
    rw [compared_null known, Filter.testCompare, if_pos known]
    by_cases different : op = .ne
    · simp [different]
    · simp [different]
  | false => simp [compared_eq_testCompare known given]

/-! ## Lists and intervals -/

theorem amongst_append (v : Value) (cs more : List Constant) :
    amongst v (cs ++ more) = (do orElse (← amongst v cs) (amongst v more)) := by
  induction cs with
  | nil => exact (false_orElse _).symm
  | cons c rest ih =>
    rw [List.cons_append, amongst, amongst, ih]
    cases compared v .eq c with
    | error f => rfl
    | ok p =>
      cases amongst v rest with
      | error f => rcases p with _ | _ | _ <;> rfl
      | ok q => exact (orElse_assoc p q _).symm

/-- The groups of a list say together what the whole list says. -/
theorem verdictAny_groups (evaluated : t.eval row e = .ok v) (groups : List (List Constant))
    (nonempty : ∀ group ∈ groups, 0 < group.length) (more : List Condition) :
    verdictAny t row (groups.map (groupCondition e) ++ more) =
      (do orElse (← amongst v groups.flatten) (verdictAny t row more)) := by
  induction groups with
  | nil => exact (false_orElse _).symm
  | cons group rest ih =>
    have others := ih fun g member => nonempty g (List.mem_cons_of_mem _ member)
    have here : (groupCondition e group).verdict t row = amongst v group := by
      cases group with
      | nil => exact absurd (nonempty [] List.mem_cons_self) (by simp)
      | cons c cs =>
        change (do amongst (← t.eval row e) (c :: cs)) = _
        rw [evaluated]
        rfl
    rw [List.map_cons, List.cons_append, verdictAny, others, here, List.flatten_cons,
      amongst_append]
    cases amongst v group with
    | error f => rfl
    | ok p =>
      cases amongst v rest.flatten with
      | error f => rcases p with _ | _ | _ <;> rfl
      | ok q => exact (orElse_assoc p q _).symm

/-- To be one of some constants is unknown for NULL, unless there are none. -/
theorem amongst_null (null : v.isNull = true) (cs : List Constant) :
    amongst v cs = .ok (if cs = [] then some false else none) := by
  induction cs with
  | nil => rfl
  | cons c rest ih =>
    rw [amongst, compared_null null, ih]
    by_cases last : rest = []
    · subst last
      rfl
    · rw [if_neg last, if_neg (List.cons_ne_nil c rest)]
      rfl

theorem amongst_eq_anyEqual (known : v.isNull = false) (cs : List Constant) :
    amongst v (cs.filter (!·.isNull)) = some <$> Filter.anyEqual v cs := by
  induction cs with
  | nil => rfl
  | cons c rest ih =>
    rw [Filter.anyEqual]
    cases given : c.isNull with
    | true =>
      rw [List.filter_cons_of_neg (by simp [given]), ih]
      rfl
    | false =>
      rw [List.filter_cons_of_pos (by simp [given]), amongst, ih,
        compared_eq_testCompare known given]
      simp only [Filter.testCompare, known, Bool.false_eq_true, if_false]
      cases v.compareConverted c.value with
      | error f => rfl
      | ok order =>
        cases order with
        | eq => rfl
        | _ => exact false_orElse _

/-- The terms of a list say what the evaluator says of it. -/
theorem oneOfCondition_verdict (d : Dialect) (evaluated : t.eval row e = .ok v)
    (values : List Constant) :
    (oneOfCondition d e values).verdict t row = Filter.testOneOf v values := by
  have nonempty : ∀ group ∈ inGroups d.features.maxInList (values.filter (!·.isNull)),
      0 < group.length := fun _ member => pos_of_mem_inGroups member
  rw [oneOfCondition, verdict_junction_or, oneOfTerms,
    verdictAny_groups evaluated _ nonempty, flatten_inGroups]
  have null_term : verdictAny t row
      (if values.any (·.isNull) then [.isNull (.expr e) false] else []) =
        .ok (some (values.any (·.isNull) && v.isNull)) := by
    cases values.any (·.isNull) with
    | true =>
      change (do
        orElse (← (do return some ((← t.eval row e).isNull != false))) (.ok (some false))) = _
      rw [evaluated]
      change orElse (some (v.isNull != false)) (.ok (some false)) = _
      cases v.isNull <;> rfl
    | false => rfl
  rw [null_term]
  unfold Filter.testOneOf
  cases known : v.isNull with
  | true =>
    rw [if_pos rfl, amongst_null known, Bool.and_true]
    change orElse _ _ = _
    cases null : values.any (·.isNull) with
    | true =>
      split
      · rfl
      · rfl
    | false =>
      have all_given : values.filter (!·.isNull) = values := by
        apply List.filter_eq_self.mpr
        simpa using null
      rw [all_given]
      cases values <;> rfl
  | false =>
    rw [if_neg Bool.false_ne_true, amongst_eq_anyEqual known, Bool.and_false]
    cases Filter.anyEqual v values with
    | error f => rfl
    | ok p => exact orElse_false (some p)

/-- An interval is two comparisons, however it is written. -/
theorem betweenCondition_verdict (d : Dialect) (evaluated : t.eval row e = .ok v)
    {low high : Constant} (low_given : low.isNull = false) (high_given : high.isNull = false) :
    (betweenCondition d e low high).verdict t row = Filter.testBetween v low high := by
  have parts : (betweenCondition d e low high).verdict t row =
      (do andThen (← compared v .ge low) (compared v .le high)) := by
    unfold betweenCondition
    split
    · change (do
        let v ← t.eval row e
        andThen (← compared v .ge low) (compared v .le high)) = _
      rw [evaluated]
      rfl
    · change (do
        andThen (← (do compared (← t.eval row e) .ge low))
          (do compared (← t.eval row e) .le high)) = _
      rw [evaluated]
      rfl
  rw [parts]
  unfold Filter.testBetween
  cases known : v.isNull with
  | true =>
    rw [compared_null known, compared_null known, if_pos rfl]
    rfl
  | false =>
    rw [if_neg Bool.false_ne_true, compared_eq_testCompare known low_given,
      compared_eq_testCompare known high_given]
    simp only [Filter.testCompare, known, Bool.false_eq_true, if_false]
    cases v.compareConverted low.value with
    | error f => rfl
    | ok order =>
      cases order with
      | lt => rfl
      | _ => exact true_andThen _

end Sql

end SqlScribe

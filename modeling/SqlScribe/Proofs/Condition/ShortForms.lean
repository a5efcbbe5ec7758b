import SqlScribe.Proofs.Condition.Combining

/-!
# Short forms of conditions

A list with NULL in it may ask for NULL apart from the other values, a comparison with NULL may be
written as a question for NULL, and an interval may be written as two comparisons. Each says of
every row what the plain form says, failures included: NULL on the left, lists without values or of
NULL alone, and values that cannot be compared come out alike.
-/

namespace SqlScribe

open Sql Emit

namespace Filter

variable (v : Value)

/-- NULL among the constants is passed over. -/
theorem anyEqual_given (cs : List Constant) :
    anyEqual v (cs.filter (!·.isNull)) = anyEqual v cs := by
  induction cs with
  | nil => rfl
  | cons c rest ih =>
    cases given : c.isNull with
    | true => rw [List.filter_cons_of_neg (by simp [given]), ih, anyEqual, if_pos given]
    | false =>
      rw [List.filter_cons_of_pos (by simp [given]), anyEqual, anyEqual, given, ih]

/-- A list that holds NULL is the list of its other values or the question for NULL. -/
theorem testOneOf_with_null {cs : List Constant} (null : cs.any (·.isNull) = true) :
    (do orElse (← testOneOf v (cs.filter (!·.isNull))) (.ok (some v.isNull))) =
      testOneOf v cs := by
  have none_left : (cs.filter (!·.isNull)).any (·.isNull) = false := by
    simp [List.any_filter]
  unfold testOneOf
  cases known : v.isNull with
  | true =>
    rw [if_pos rfl, if_pos rfl, none_left, if_neg Bool.false_ne_true, if_pos null]
    cases (cs.filter (!·.isNull)).isEmpty <;> rfl
  | false =>
    rw [if_neg Bool.false_ne_true, if_neg Bool.false_ne_true, anyEqual_given]
    cases anyEqual v cs with
    | error fault => rfl
    | ok p => exact orElse_false (some p)

/-- An interval is two comparisons, of which the second is made if the first holds. -/
theorem testBetween_eq (low high : Constant) :
    testBetween v low high =
      (do andThen (← testCompare v .ge low) (testCompare v .le high)) := by
  unfold testBetween testCompare
  cases known : v.isNull with
  | true => rfl
  | false =>
    simp only [Bool.false_eq_true, if_false]
    cases v.compareConverted low.value with
    | error fault => rfl
    | ok order =>
      cases order with
      | lt => rfl
      | _ =>
        cases v.compareConverted high.value with
        | error fault => rfl
        | ok order => cases order <;> rfl

end Filter

namespace Table

variable {t : Table} {row : Row} {e : Expr}

theorem test_among (cs : List Constant) :
    t.test row (.among e cs) = t.test row (.oneOf e cs) := by
  unfold Filter.among
  cases null : cs.any (·.isNull) with
  | false =>
    have all_given : cs.filter (!·.isNull) = cs := by
      apply List.filter_eq_self.mpr
      simpa using null
    rw [if_neg Bool.false_ne_true, all_given]
  | true =>
    rw [if_pos rfl, test_disjoin, test, test, test]
    cases t.eval row e with
    | error fault => rfl
    | ok v =>
      have question : (some (v.isNull != false)) = some v.isNull := by
        cases v.isNull <;> rfl
      change (do orElse (← Filter.testOneOf v _) (.ok (some (v.isNull != false)))) = _
      rw [question]
      exact Filter.testOneOf_with_null v null

theorem test_comparing (op : Comparison) (c : Constant) :
    t.test row (.comparing e op c) = t.test row (.compare e op c false) := by
  unfold Filter.comparing
  split
  · rename_i asked
    obtain ⟨null, equality⟩ := Bool.and_eq_true_iff.mp asked
    rw [test, test, if_pos null]
    cases t.eval row e with
    | error fault => rfl
    | ok v =>
      cases op with
      | eq =>
        change Except.ok (some (v.isNull != false)) = .ok (some v.isNull)
        cases v.isNull <;> rfl
      | ne =>
        change Except.ok (some (v.isNull != true)) = .ok (some (!v.isNull))
        cases v.isNull <;> rfl
      | _ => cases equality
  · rfl

/-- A comparison with a constant that is not NULL, without a default. -/
theorem test_compare_given (op : Comparison) {c : Constant} (given : c.isNull = false) :
    t.test row (.compare e op c false) =
      (do Filter.testCompare (← t.eval row e) op c) := by
  rw [test, if_neg (by simp [given])]
  rfl

theorem test_between {low high : Constant} (low_given : low.isNull = false)
    (high_given : high.isNull = false) :
    t.test row (.between e low high) =
      t.test row (.and [.compare e .ge low false, .compare e .le high false]) := by
  have interval : t.test row (.between e low high) =
      (do Filter.testBetween (← t.eval row e) low high) := by
    rw [test, if_neg (by simp [low_given, high_given])]
  rw [test_and, allOf, allOf_single, test_compare_given .ge low_given,
    test_compare_given .le high_given, interval]
  cases t.eval row e with
  | error fault => rfl
  | ok v => exact Filter.testBetween_eq v low high

end Table

namespace Filter

variable {d : Dialect} {e : Expr} {lhs : String}

/-- A comparison by order is written as the left side, the operator and the constant. -/
theorem emitCompare_of_render (rendered : e.render d = .ok lhs) {op : Comparison}
    (ordered : op ≠ .ne) {c : Constant} (given : c.isNull = false) :
    emitCompare d e op c false = (do
      text lhs
      text (" " ++ op.sql ++ " ")
      c.emit d) := by
  unfold emitCompare
  rw [if_neg (by simp [given]), if_neg Bool.false_ne_true, rendered]
  change (if op = .ne ∧ _ then _ else _) = _
  rw [if_neg fun different => ordered different.1]

/-- A dialect that has no word for intervals is sent the two comparisons. -/
theorem emitBetween_writes_iff (lacking : d.features.between = false) {low high : Constant}
    (low_given : low.isNull = false) (high_given : high.isNull = false) {b b' : Buffer} :
    Writes (emitBetween d e low high) b b' ↔
      Writes (Emit.junction d " AND " true
        [emitCompare d e .ge low false, emitCompare d e .le high false]) b b' := by
  have opened : emitBetween d e low high = (do
      let lhs ← attempt (e.render d)
      text "("
      text lhs
      text " >= "
      low.emit d
      text " AND "
      text lhs
      text " <= "
      high.emit d
      text ")") := by
    unfold emitBetween
    rw [if_neg (by simp [low_given, high_given]), lacking]
    rfl
  cases rendered : e.render d with
  | error fault =>
    constructor
    · intro written
      rw [opened, rendered] at written
      cases written
    · intro written
      obtain ⟨m, m', inside⟩ := writes_of_mem_junction written List.mem_cons_self
      unfold emitCompare at inside
      rw [if_neg (by simp [low_given])] at inside
      obtain ⟨lhs, known, -⟩ := writes_attempt.mp inside
      rw [if_neg Bool.false_ne_true, rendered] at known
      cases known
  | ok lhs =>
    rw [emitCompare_of_render rendered (by decide) low_given,
      emitCompare_of_render rendered (by decide) high_given, opened, rendered]
    simp only [Emit.junction, separated, bind_assoc]
    rfl

/-- The short forms of conditions say of every row what the plain forms say, failures included: a
list of any constants, a comparison with any constant, and an interval, which says what the
comparisons with its ends say together. Those comparisons are what an interval is written as for a
dialect that has no word for it. -/
theorem short_forms_test (t : Table) (row : Row) (e : Expr) :
    (∀ cs, t.test row (among e cs) = t.test row (oneOf e cs)) ∧
    (∀ op c, t.test row (comparing e op c) = t.test row (compare e op c false)) ∧
    ∀ low high, low.isNull = false → high.isNull = false →
      t.test row (between e low high) =
        t.test row (and [compare e .ge low false, compare e .le high false]) ∧
      t.test row (between e low high) =
        t.test row ((comparing e .ge low).conjoin (comparing e .le high)) ∧
      ∀ d : Dialect, d.features.between = false → ∀ b b',
        (Writes (emitBetween d e low high) b b' ↔
          Writes (Emit.junction d " AND " true
            [emitCompare d e .ge low false, emitCompare d e .le high false]) b b') := by
  refine ⟨Table.test_among, Table.test_comparing, fun low high low_given high_given => ?_⟩
  have together : t.test row (between e low high) =
      t.test row (and [compare e .ge low false, compare e .le high false]) :=
    Table.test_between low_given high_given
  refine ⟨together, ?_, fun d lacking b b' => emitBetween_writes_iff lacking low_given high_given⟩
  rw [together, Table.test_conjoin, Table.test_comparing, Table.test_comparing, Table.test_and,
    Table.allOf, Table.allOf_single]

/-- The numbers of members between two and five; the dialect of data views has no word for that. -/
theorem short_forms_test_members :
    members.test [.int 7, .null] (and [compare (.column ⟨["Id"]⟩) .ge (.ofInt 2) false,
      compare (.column ⟨["Id"]⟩) .le (.ofInt 5) false]) = .ok (some false) ∧
    ∃ b', Writes (Emit.junction Builtin.dataView.dialect " AND " true
        [emitCompare Builtin.dataView.dialect (.column ⟨["Id"]⟩) .ge (.ofInt 2) false,
          emitCompare Builtin.dataView.dialect (.column ⟨["Id"]⟩) .le (.ofInt 5) false])
        (.empty .inline) b' ∧ b'.sql = "([Id] >= 2 AND [Id] <= 5)" := by
  obtain ⟨-, -, intervals⟩ := short_forms_test members [.int 7, .null] (.column ⟨["Id"]⟩)
  obtain ⟨asked, -, sent⟩ := intervals (.ofInt 2) (.ofInt 5) rfl rfl
  constructor
  · rw [← asked]
    decide +kernel
  · refine ⟨((emitBetween Builtin.dataView.dialect (.column ⟨["Id"]⟩) (.ofInt 2) (.ofInt 5)).run.run
      (.empty .inline)).2, (sent _ rfl _ _).mp (Prod.ext ?_ rfl), ?_⟩
    · change ((emitBetween Builtin.dataView.dialect (.column ⟨["Id"]⟩) (.ofInt 2)
        (.ofInt 5)).run.run (.empty .inline)).1 = .ok ()
      decide +kernel
    · decide +kernel

end Filter

end SqlScribe

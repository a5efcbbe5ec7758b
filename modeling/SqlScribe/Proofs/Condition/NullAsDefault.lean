import SqlScribe.Proofs.Condition.Filters

/-!
# Comparisons that read NULL as a default

The default stands in for the NULL of a plain column only. In SQL a comparison of any other
expression is unknown where that is NULL; in memory it is too, but for `<>`, which accepts NULL
there whether or not a default was asked for.
-/

namespace SqlScribe

open Sql Emit

/-- What a comparison with a default is written as. -/
def defaultComparison (e : Expr) (op : Comparison) (c : Constant) : Condition :=
  .compare (comparedSide e true c.type) op c

theorem compareCondition_default (e : Expr) (op : Comparison) {c : Constant}
    (given : c.isNull = false) : compareCondition e op c true = defaultComparison e op c := by
  unfold compareCondition
  rw [if_neg (by simp [given]), if_neg (by simp)]
  rfl

namespace Filter

/-- The words of a comparison with a default are read as that comparison, and they write what the
dialect writes if its default for a column is that of the type. The comparison says of a row what
the filter says in memory, unless the filter is a `<>` of an expression that is no column and is
NULL in that row. -/
theorem default_comparison_agrees_iff (d : Dialect) (t : Table) (row : Row) (e : Expr)
    (op : Comparison) {c : Constant} (given : c.isNull = false) {b b' : Buffer}
    (written : Writes (emitCompare d e op c true) b b') {v : Value}
    (evaluated : t.eval row e = .ok v) :
    ((e.asColumn?.isSome = true → d.KeepsDefault c.type) →
      Writes (emitAll d (defaultComparison e op c).lexemes) b b') ∧
    read (defaultComparison e op c).lexemes = some (defaultComparison e op c) ∧
    ((defaultComparison e op c).verdict t row = t.test row (.compare e op c true) ↔
      ¬ (op = .ne ∧ e.asColumn? = none ∧ v = .null)) := by
  have known : e.asColumn?.isSome = true → c.type ≠ .unknown :=
    type_known_of_written written given
  have verdict : (defaultComparison e op c).verdict t row =
      compared (comparedValue e v true c.type) op c := by
    rw [← compareCondition_default e op given]
    exact compareCondition_side given (by simp) (comparedValue_eval evaluated true c.type)
  refine ⟨?_, Condition.read_lexemes trivial, ?_⟩
  · intro kept
    rw [← compareCondition_default e op given]
    exact emitCompare_covers op (fun _ => kept) b b' written
  · have null_iff : v.isNull = true ↔ v = .null := by
      cases v <;> simp [Value.isNull]
    rw [verdict, test_compare evaluated op given, eq_comm, testCompare_eq_compared given,
      comparedValue_isNull known, null_iff]

/-- Members by name, one of them without a name. -/
def nameless : Row := [.int 1, .null]

/-- A column reads as its default, so that it differs from the constant on both sides. -/
theorem default_comparison_agrees_nameless :
    (defaultComparison (.column ⟨["Name"]⟩) .ne ⟨.string "ANN", .string⟩).verdict members nameless =
      .ok (some true) := by
  have written : Writes
      (emitCompare Builtin.postgres.dialect (.column ⟨["Name"]⟩) .ne ⟨.string "ANN", .string⟩ true)
      (.empty .inline)
      ((emitCompare Builtin.postgres.dialect (.column ⟨["Name"]⟩) .ne ⟨.string "ANN", .string⟩
        true).run.run (.empty .inline)).2 := by
    apply Prod.ext
    · change ((emitCompare Builtin.postgres.dialect (.column ⟨["Name"]⟩) .ne
        ⟨.string "ANN", .string⟩ true).run.run (.empty .inline)).1 = .ok ()
      decide +kernel
    · rfl
  have evaluated : members.eval nameless (.column ⟨["Name"]⟩) = .ok .null := by decide +kernel
  obtain ⟨-, -, exact⟩ := default_comparison_agrees_iff Builtin.postgres.dialect members nameless
    (.column ⟨["Name"]⟩) .ne (by decide) written evaluated
  have tested : members.test nameless
      (.compare (.column ⟨["Name"]⟩) .ne ⟨.string "ANN", .string⟩ true) = .ok (some true) := by
    decide +kernel
  exact (exact.mpr (by simp [Expr.asColumn?])).trans tested

/-- A function of a column is NULL itself: unknown in SQL, different in memory. -/
theorem default_comparison_differs :
    ((Filter.compare (.function .upper [.column ⟨["Name"]⟩]) .ne ⟨.string "ANN", .string⟩
      true).compile Builtin.postgres.dialect .inline).map Statement.sql =
        .ok "UPPER(\"Name\") <> 'ANN'" ∧
    members.test nameless
      (.compare (.function .upper [.column ⟨["Name"]⟩]) .ne ⟨.string "ANN", .string⟩ true) =
        .ok (some true) ∧
    (defaultComparison (.function .upper [.column ⟨["Name"]⟩]) .ne
      ⟨.string "ANN", .string⟩).verdict members nameless = .ok none := by
  decide +kernel

end Filter

end SqlScribe

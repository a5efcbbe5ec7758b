import SqlScribe.Proofs.Condition.Agreement
import SqlScribe.Proofs.Condition.Spelling

/-!
# Filters in memory and in SQL

A filter that a dialect writes is read from what it wrote as a condition that says about every row
of a table what the filter says about it in memory.
-/

namespace SqlScribe

open Sql Emit

theorem Emit.writes_of_mem_separated {sep : String} {steps : List (Emit Unit)} {b b' : Buffer}
    (h : Writes (separated sep steps) b b') {step : Emit Unit} (member : step ∈ steps) :
    ∃ m m', Writes step m m' := by
  induction steps generalizing b with
  | nil => cases member
  | cons first rest ih =>
    cases rest with
    | nil =>
      rw [List.mem_singleton.mp member]
      exact ⟨b, b', h⟩
    | cons second others =>
      obtain ⟨m, before, after⟩ := (writes_seq _ _ b b').mp h
      obtain ⟨m', -, later⟩ := (writes_seq _ _ m b').mp after
      cases member with
      | head => exact ⟨b, m, before⟩
      | tail _ inside => exact ih later inside

/-- A junction is written only if all of its steps are. -/
theorem Emit.writes_of_mem_junction {d : Dialect} {sep : String} {empty : Bool}
    {steps : List (Emit Unit)} {b b' : Buffer} (h : Writes (junction d sep empty steps) b b')
    {step : Emit Unit} (member : step ∈ steps) : ∃ m m', Writes step m m' := by
  match steps, h, member with
  | [only], h, member =>
    rw [List.mem_singleton.mp member]
    exact ⟨b, b', h⟩
  | first :: second :: rest, h, member =>
    obtain ⟨m, -, after⟩ := (writes_seq _ _ b b').mp h
    obtain ⟨m', inside, -⟩ := (writes_seq _ _ m b').mp after
    exact writes_of_mem_separated inside member

namespace Filter

/-- The dialect writes the filter, at least somewhere. -/
def Written (d : Dialect) (f : Filter) : Prop := ∃ b b', Writes (f.emit d) b b'

theorem written_of_enclosed {d : Dialect} {body : Emit Unit}
    (h : ∃ b b', Writes (Emit.enclosed d body) b b') : ∃ b b', Writes body b b' := by
  obtain ⟨b, b', written⟩ := h
  unfold Emit.enclosed at written
  split at written
  · obtain ⟨m, -, after⟩ := (writes_seq _ _ b b').mp written
    obtain ⟨m', inside, -⟩ := (writes_seq _ _ m b').mp after
    exact ⟨m, m', inside⟩
  · exact ⟨b, b', written⟩

theorem Written.of_and {d : Dialect} {parts : List Filter} (h : (and parts).Written d) :
    ∀ f ∈ parts, f.Written d := by
  intro f member
  obtain ⟨b, b', written⟩ := h
  rw [emit_and] at written
  exact writes_of_mem_junction written (List.mem_map_of_mem member)

theorem Written.of_or {d : Dialect} {parts : List Filter} (h : (or parts).Written d) :
    ∀ f ∈ parts, f.Written d := by
  intro f member
  obtain ⟨b, b', written⟩ := h
  rw [emit_or] at written
  exact writes_of_mem_junction written (List.mem_map_of_mem member)

theorem Written.of_not {d : Dialect} {part : Filter} (h : (not part).Written d) :
    part.Written d := by
  obtain ⟨b, b', written⟩ := h
  obtain ⟨m, -, after⟩ := (writes_seq _ _ b b').mp written
  obtain ⟨m', -, later⟩ := (writes_seq _ _ m b').mp after
  obtain ⟨m'', inside, -⟩ := (writes_seq _ _ m' b').mp later
  exact ⟨m', m'', inside⟩

end Filter

mutual

/-- Every leaf of a filter that is written is written. -/
theorem Filter.written_leaves {d : Dialect} :
    (f : Filter) → f.Written d → ∀ leaf ∈ f.leaves, leaf.Written d
  | .and parts, h => Filter.written_leavesOf parts h.of_and
  | .or parts, h => Filter.written_leavesOf parts h.of_or
  | .not part, h => part.written_leaves h.of_not
  | .compare .., h | .compareNull .., h | .oneOf .., h | .startsWith .., h | .contains .., h
  | .inSubquery .., h | .between .., h | .constant _, h => fun leaf member => by
    rw [List.mem_singleton.mp member]
    exact h

theorem Filter.written_leavesOf {d : Dialect} :
    (parts : List Filter) → (∀ f ∈ parts, f.Written d) →
      ∀ leaf ∈ Filter.leavesOf parts, leaf.Written d
  | [], _, _, member => by cases member
  | f :: rest, h, leaf, member => by
    cases List.mem_append.mp member with
    | inl here => exact f.written_leaves (h f List.mem_cons_self) leaf here
    | inr later =>
      exact Filter.written_leavesOf rest (fun g inside => h g (List.mem_cons_of_mem _ inside))
        leaf later

end

namespace Filter

/-- The expression that a leaf is about. -/
def operand? : Filter → Option Expr
  | compare e _ _ _ | compareNull e _ | oneOf e _ | startsWith e _ | contains e _
  | inSubquery e _ | between e _ _ => some e
  | _ => none

variable {d : Dialect} {t : Table} {row : Row} {e : Expr} {v : Value}

/-- A default that is written is one of a known type. -/
theorem type_known_of_written {op : Comparison} {c : Constant} {b b' : Buffer}
    (written : Writes (emitCompare d e op c true) b b') (given : c.isNull = false)
    (column : e.asColumn?.isSome = true) : c.type ≠ .unknown := by
  intro unknown
  unfold emitCompare at written
  rw [if_neg (by simp [given])] at written
  obtain ⟨lhs, rendered, -⟩ := writes_attempt.mp written
  obtain ⟨path, side⟩ := Option.isSome_iff_exists.mp column
  rw [if_pos rfl, Expr.renderOrDefault, side] at rendered
  cases known : d.column path with
  | error f => simp [known, bind, Except.bind] at rendered
  | ok text => simp [known, unknown, bind, Except.bind] at rendered

/-- The value that a comparison is made with. -/
def comparedValue (e : Expr) (v : Value) (nullAsDefault : Bool) (type : ColumnType) : Value :=
  if nullAsDefault && v.isNull && e.asColumn?.isSome then type.default else v

theorem comparedValue_eval (evaluated : t.eval row e = .ok v) (nullAsDefault : Bool)
    (type : ColumnType) :
    (if nullAsDefault then t.evalOrDefault row e type else t.eval row e) =
      .ok (comparedValue e v nullAsDefault type) := by
  cases nullAsDefault with
  | false => exact evaluated
  | true =>
    rw [if_pos rfl, Table.evalOrDefault, evaluated]
    rfl

/-- A default of a known type stands in for every NULL of a column, and for nothing else. -/
theorem comparedValue_isNull {c : Constant}
    (known : e.asColumn?.isSome = true → c.type ≠ .unknown) :
    (comparedValue e v true c.type).isNull = true ↔ e.asColumn? = none ∧ v.isNull = true := by
  unfold comparedValue
  cases column : e.asColumn? with
  | none => simp
  | some path =>
    have known : c.type ≠ .unknown := known (by simp [column])
    have standing : c.type.default.isNull = false := by
      rw [ColumnType.isNull_default, decide_eq_false known]
    cases null : v.isNull <;> simp [null, standing]

theorem test_compare_null (evaluated : t.eval row e = .ok v) (op : Comparison) {c : Constant}
    (null : c.isNull = true) (nullAsDefault : Bool) :
    t.test row (compare e op c nullAsDefault) = .ok (some (testCompareNull v op)) := by
  rw [Table.test, if_pos null, evaluated]
  rfl

theorem test_compare (evaluated : t.eval row e = .ok v) (op : Comparison) {c : Constant}
    (given : c.isNull = false) (nullAsDefault : Bool) :
    t.test row (compare e op c nullAsDefault) =
      testCompare (comparedValue e v nullAsDefault c.type) op c := by
  rw [Table.test, if_neg (by simp [given])]
  cases nullAsDefault with
  | false =>
    change (do testCompare (← t.eval row e) op c) = _
    rw [evaluated]
    rfl
  | true =>
    have side : t.evalOrDefault row e c.type = .ok (comparedValue e v true c.type) :=
      comparedValue_eval evaluated true c.type
    change (do testCompare (← t.evalOrDefault row e c.type) op c) = _
    rw [side]
    rfl

/-- A comparison says what it is written as, if a `<>` with a default is about a column. -/
theorem compareCondition_verdict (evaluated : t.eval row e = .ok v) (op : Comparison)
    (c : Constant) (nullAsDefault : Bool)
    (known : nullAsDefault = true → c.isNull = false → e.asColumn?.isSome = true →
      c.type ≠ .unknown)
    (bare : op = .ne → nullAsDefault = true → e.asColumn?.isSome = true) :
    (compareCondition e op c nullAsDefault).verdict t row =
      t.test row (compare e op c nullAsDefault) := by
  cases given : c.isNull with
  | true => rw [compareCondition_null evaluated op given, test_compare_null evaluated op given]
  | false =>
    rw [test_compare evaluated op given]
    by_cases different : op = .ne ∧ nullAsDefault = false
    · obtain ⟨rfl, rfl⟩ := different
      exact compareCondition_different evaluated given
    · rw [compareCondition_side given different (comparedValue_eval evaluated nullAsDefault c.type)]
      apply ((testCompare_eq_compared given).mpr _).symm
      rintro ⟨rfl, null⟩
      have default : nullAsDefault = true := by simpa using different
      subst default
      have column := bare rfl rfl
      have none_column := ((comparedValue_isNull (known rfl given)).mp null).1
      rw [none_column] at column
      cases column

theorem like_verdict (evaluated : t.eval row e = .ok v) (p : LikePattern) :
    (Condition.like (.expr e) p).verdict t row =
      .ok (if v.isNull then none else some (p.holds v.plainText)) := by
  change (do
    let v ← t.eval row e
    return if v.isNull then none else some (p.holds v.plainText)) = _
  rw [evaluated]
  rfl

/-- What it takes to compare what a leaf says with what it is written as. -/
structure Readable (d : Dialect) (t : Table) (row : Row) (leaf : Filter) : Prop where
  written : leaf.Written d
  plain : ∀ e q, leaf ≠ inSubquery e q
  bare : ∀ e c, leaf = compare e .ne c true → e.asColumn?.isSome = true
  evaluates : ∀ e, leaf.operand? = some e → ∃ v, t.eval row e = .ok v

theorem Readable.compare_verdict {op : Comparison} {c : Constant} {nullAsDefault : Bool}
    (h : (compare e op c nullAsDefault).Readable d t row) :
    ((compare e op c nullAsDefault).condition d).verdict t row =
      t.test row (compare e op c nullAsDefault) := by
  obtain ⟨v, evaluated⟩ := h.evaluates e rfl
  obtain ⟨b, b', written⟩ := written_of_enclosed h.written
  refine (verdict_enclosedFor t row d _).trans (compareCondition_verdict evaluated op c _ ?_ ?_)
  · rintro rfl given column
    exact type_known_of_written written given column
  · rintro rfl rfl
    exact h.bare e c rfl

theorem Readable.between_verdict {low high : Constant}
    (h : (between e low high).Readable d t row) :
    ((between e low high).condition d).verdict t row = t.test row (between e low high) := by
  obtain ⟨v, evaluated⟩ := h.evaluates e rfl
  obtain ⟨b, b', written⟩ := written_of_enclosed h.written
  have given : (low.isNull || high.isNull) = false := by
    apply Bool.eq_false_iff.mpr
    intro null
    unfold emitBetween at written
    rw [if_pos null] at written
    cases written
  obtain ⟨low_given, high_given⟩ := Bool.or_eq_false_iff.mp given
  refine (verdict_enclosedFor t row d _).trans ?_
  rw [betweenCondition_verdict d evaluated low_given high_given, Table.test,
    if_neg (by simp [given]), evaluated]
  rfl

end Filter

mutual

/-- What a filter says about a row is what its condition says. -/
theorem Filter.condition_verdict {d : Dialect} {t : Table} {row : Row} :
    (f : Filter) → (∀ leaf ∈ f.leaves, leaf.Readable d t row) →
      (f.condition d).verdict t row = t.test row f
  | .and parts, h => by
    rw [Filter.condition, verdict_junction_and, Table.test]
    exact Filter.conditions_verdictAll parts h
  | .or parts, h => by
    rw [Filter.condition, verdict_junction_or, Table.test]
    exact Filter.conditions_verdictAny parts h
  | .not part, h => by
    rw [Table.test, ← part.condition_verdict h]
    rfl
  | .compare e op c nullAsDefault, h => (h _ List.mem_cons_self).compare_verdict
  | .between e low high, h => (h _ List.mem_cons_self).between_verdict
  | .compareNull e negated, h => by
    obtain ⟨v, evaluated⟩ := (h _ List.mem_cons_self).evaluates e rfl
    rw [Filter.condition, verdict_enclosedFor, Table.test]
    rfl
  | .oneOf e values, h => by
    obtain ⟨v, evaluated⟩ := (h _ List.mem_cons_self).evaluates e rfl
    rw [Filter.condition, verdict_enclosedFor, oneOfCondition_verdict d evaluated, Table.test,
      evaluated]
    rfl
  | .startsWith e start, h => by
    obtain ⟨v, evaluated⟩ := (h _ List.mem_cons_self).evaluates e rfl
    rw [Filter.condition, verdict_enclosedFor, Filter.like_verdict evaluated, Table.test, evaluated]
    rfl
  | .contains e needle, h => by
    obtain ⟨v, evaluated⟩ := (h _ List.mem_cons_self).evaluates e rfl
    rw [Filter.condition, verdict_enclosedFor, Filter.like_verdict evaluated, Table.test, evaluated]
    rfl
  | .constant b, _ => verdict_enclosedFor t row d (.truth b)
  | .inSubquery e q, h => absurd rfl ((h _ List.mem_cons_self).plain e q)

theorem Filter.conditions_verdictAll {d : Dialect} {t : Table} {row : Row} :
    (parts : List Filter) → (∀ leaf ∈ Filter.leavesOf parts, leaf.Readable d t row) →
      verdictAll t row (Filter.conditions d parts) = t.testAll row (some true) parts
  | [], _ => by
    rw [Table.testAll]
    rfl
  | f :: rest, h => by
    rw [Table.testAll_cons, Filter.conditions, verdictAll,
      f.condition_verdict fun leaf member => h leaf (List.mem_append_left _ member),
      Filter.conditions_verdictAll rest fun leaf member => h leaf (List.mem_append_right _ member)]

theorem Filter.conditions_verdictAny {d : Dialect} {t : Table} {row : Row} :
    (parts : List Filter) → (∀ leaf ∈ Filter.leavesOf parts, leaf.Readable d t row) →
      verdictAny t row (Filter.conditions d parts) = t.testAny row (some false) parts
  | [], _ => by
    rw [Table.testAny]
    rfl
  | f :: rest, h => by
    rw [Table.testAny_cons, Filter.conditions, verdictAny,
      f.condition_verdict fun leaf member => h leaf (List.mem_append_left _ member),
      Filter.conditions_verdictAny rest fun leaf member => h leaf (List.mem_append_right _ member)]

end

/-- What a filter says about a row of a table is what is read from the text that a dialect writes
for it, character by character: the pieces write the same text with the same parameters, their
characters are read as a condition, and the condition says of the row what the filter says. The
dialect has to write its constants and its escape clause in words of SQL, and what stands in for
NULL has to be the default of the type. -/
theorem Filter.text_verdict_eq_test (d : Dialect) (words : d.PlainWords) (t : Table) (row : Row)
    (f : Filter) {b b' : Buffer} (written : Writes (f.emit d) b b') (plain : f.Plain)
    (bare : ∀ e c, .compare e .ne c true ∈ f.leaves → e.asColumn?.isSome = true)
    (kept : ∀ e op c, .compare e op c true ∈ f.leaves → e.asColumn?.isSome = true →
      d.KeepsDefault c.type)
    (evaluates : ∀ leaf ∈ f.leaves, ∀ e, leaf.operand? = some e → ∃ v, t.eval row e = .ok v) :
    Writes (emitPassages d ((f.condition d).passages d)) b b' ∧
    ∃ c, readText ((f.condition d).glyphs d) = some c ∧ c.verdict t row = t.test row f := by
  have direct : ∀ leaf ∈ f.leaves, leaf.Direct d := by
    intro leaf member
    constructor
    · rintro e q rfl
      exact plain e q member
    · rintro e op c rfl
      exact kept e op c member
  have fits : (f.condition d).Fits .disjunction := (f.condition_fits d).loosen _
  refine ⟨?_, f.condition d, Condition.readText_glyphs words fits, ?_⟩
  · rw [Condition.passages, emitPassages_words]
    exact f.emit_covers direct b b' written
  · apply f.condition_verdict
    intro leaf member
    constructor
    · exact f.written_leaves ⟨b, b', written⟩ leaf member
    · exact (direct leaf member).plain
    · rintro e c rfl
      exact bare e c member
    · exact evaluates leaf member

/-- A table of one number and one name in each row. -/
def members : Table := ⟨"Members", [.of "Id" .integer, .of "Name" .string], []⟩

/-- Numbers outside an interval, of a list that names NULL too, and of any other name than one. -/
def membersFilter : Filter :=
  .and [
    .not (.between (.column ⟨["Id"]⟩) (.ofInt 1) (.ofInt 5)),
    .compare (.column ⟨["Name"]⟩) .ne ⟨.string "Ann", .string⟩ true,
    .oneOf (.column ⟨["Id"]⟩) [.ofInt 7, ⟨.null, .integer⟩]]

/-- For a row of NULLs the interval leaves it unknown. -/
theorem Filter.text_verdict_members :
    ∃ c, readText ((membersFilter.condition Builtin.sqlite.dialect).glyphs
        Builtin.sqlite.dialect) = some c ∧
      c.verdict members [.null, .null] = .ok none := by
  have written : Writes (membersFilter.emit Builtin.sqlite.dialect) (.empty .bind)
      ((membersFilter.emit Builtin.sqlite.dialect).run.run (.empty .bind)).2 := by
    apply Prod.ext
    · change ((membersFilter.emit Builtin.sqlite.dialect).run.run (.empty .bind)).1 = .ok ()
      decide +kernel
    · rfl
  have plain : membersFilter.Plain := by
    intro e q member
    simp [membersFilter, Filter.leaves, Filter.leavesOf] at member
  have bare : ∀ e c, .compare e .ne c true ∈ membersFilter.leaves → e.asColumn?.isSome = true := by
    intro e c member
    simp only [membersFilter, Filter.leaves, Filter.leavesOf, List.cons_append, List.nil_append,
      List.mem_cons, List.not_mem_nil, or_false, reduceCtorEq, false_or,
      Filter.compare.injEq] at member
    rw [member.1]
    rfl
  have kept : ∀ e op c, .compare e op c true ∈ membersFilter.leaves → e.asColumn?.isSome = true →
      Builtin.sqlite.dialect.KeepsDefault c.type :=
    fun _ _ _ _ _ => .of_default rfl rfl
  have evaluates : ∀ leaf ∈ membersFilter.leaves, ∀ e, leaf.operand? = some e →
      ∃ v, members.eval [.null, .null] e = .ok v := by
    intro leaf member e operand
    simp only [membersFilter, Filter.leaves, Filter.leavesOf, List.cons_append, List.nil_append,
      List.mem_cons, List.not_mem_nil, or_false] at member
    obtain rfl | rfl | rfl := member <;> cases operand <;> exact ⟨.null, by decide +kernel⟩
  obtain ⟨-, c, readable, verdict⟩ := Filter.text_verdict_eq_test Builtin.sqlite.dialect
    Builtin.sqlite.plainWords members [.null, .null] membersFilter written plain bare kept evaluates
  have tested : members.test [.null, .null] membersFilter = .ok none := by decide +kernel
  exact ⟨c, readable, verdict.trans tested⟩

/-- A dialect that says never where it means always. -/
def contrary : Dialect :=
  { Builtin.sqlite.dialect with truth := fun b => if b then "1=0" else "1=1" }

/-- A dialect where something else than the default of a type stands in for NULL. -/
def sevens : Dialect := { Builtin.sqlite.dialect with defaultValue := fun _ => .int 7 }

/-- A dialect with something else than an escape clause behind a pattern. -/
def trailing : Dialect := { Builtin.sqlite.dialect with likeEscapeClause := " OR 1=1" }

/-- A table with a column that has the name of a word of SQL. -/
def nullNamed : Table := ⟨"Oddities", [.of "NULL" .integer], []⟩

/-- A dialect's own words for always and never, its own default and its own escape clause make a
text that says something else than the filter. A name that is not quoted may be a word of SQL: a
column and a constant are then tested for NULL in the same text, and only one of them is NULL. -/
theorem Filter.text_says_otherwise :
    (((Filter.and []).compile contrary .inline).map Statement.sql = .ok "1=0" ∧
      readText (spell "1=0") = some (.truth false) ∧
      members.test [.null, .null] (.and []) = .ok (some true)) ∧
    (((Filter.compare (.column ⟨["Id"]⟩) .eq (.ofInt 0) true).compile sevens .inline).map
        Statement.sql = .ok "COALESCE(\"Id\", 7) = 0" ∧
      (Condition.compare (.coalesced ⟨["Id"]⟩ (.ofInt 7)) .eq (.ofInt 0)).verdict members
        [.null, .null] = .ok (some false) ∧
      members.test [.null, .null] (.compare (.column ⟨["Id"]⟩) .eq (.ofInt 0) true) =
        .ok (some true)) ∧
    (((Filter.startsWith (.column ⟨["Name"]⟩) "A").compile trailing .inline).map Statement.sql =
        .ok "\"Name\" LIKE 'A%' OR 1=1" ∧
      (∃ c, readText (.atom (.scalar (.expr (.column ⟨["Name"]⟩))) :: spell " LIKE " ++
          .atom (.pattern (.startsWith "A")) :: spell " OR 1=1") = some c ∧
        c.verdict members [.null, .null] = .ok (some true)) ∧
      members.test [.null, .null] (.startsWith (.column ⟨["Name"]⟩) "A") = .ok none) ∧
    ((Filter.compareNull (.column ⟨["NULL"]⟩) false).compile Builtin.db2.dialect .inline =
        (Filter.compareNull (.constant ⟨.null, .integer⟩) false).compile Builtin.db2.dialect
          .inline ∧
      nullNamed.test [.int 1] (.compareNull (.column ⟨["NULL"]⟩) false) = .ok (some false) ∧
      nullNamed.test [.int 1] (.compareNull (.constant ⟨.null, .integer⟩) false) =
        .ok (some true)) := by
  refine ⟨⟨?_, by rfl, ?_⟩, ⟨?_, ?_, ?_⟩, ⟨?_, ⟨_, by rfl, ?_⟩, ?_⟩, ?_⟩
  all_goals decide +kernel

end SqlScribe

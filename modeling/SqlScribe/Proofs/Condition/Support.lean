import SqlScribe.Dialect.Builtin
import SqlScribe.Proofs.Condition.Filters
import SqlScribe.Proofs.Statement.Script

/-!
# What data views take and memory lacks

A table in memory has no aggregates, no qualified columns and no subqueries, and the dialect of data
views is to refuse them before any row is looked at. It refuses whatever it writes out; an empty
list is written as a constant, and what the list is asked of is not looked at. So a filter that the
dialect takes fails in memory for want of support exactly where the test of a row comes to an empty
list of something that memory lacks.
-/

namespace SqlScribe

open Emit

/-- If there is no result, it is not for want of support. -/
def Supported {α : Type} (r : Except Fault α) : Prop :=
  ∀ fault, r = .error fault → fault.isUnsupported = false

namespace Supported

variable {α β : Type}

theorem ok (a : α) : Supported (.ok a : Except Fault α) := by
  rintro fault ⟨⟩

theorem overflow : Supported (.error .overflow : Except Fault α) := by
  rintro fault ⟨⟩
  rfl

theorem invalid (mistake : Mistake) : Supported (.error (.invalid mistake) : Except Fault α) := by
  rintro fault ⟨⟩
  rfl

theorem bind {r : Except Fault α} {next : α → Except Fault β} (first : Supported r)
    (later : ∀ a, r = .ok a → Supported (next a)) : Supported (r >>= next) := by
  cases r with
  | ok a => exact later a rfl
  | error fault =>
    rintro other ⟨⟩
    exact first fault rfl

theorem map {r : Except Fault α} {f : α → β} (h : Supported r) : Supported (f <$> r) := by
  cases r with
  | ok a => exact ok _
  | error fault =>
    rintro other ⟨⟩
    exact h fault rfl

/-- A fault for want of support is not among those that are left. -/
theorem not_error {r : Except Fault α} (h : Supported r) {fault : Fault}
    (lacking : fault.isUnsupported = true) : r ≠ .error fault := by
  intro failed
  rw [h fault failed] at lacking
  cases lacking

end Supported

section Values

variable (v w : Value)

theorem Value.convert_supported (type : ColumnType) : Supported (v.convert type) := by
  unfold convert
  split
  · exact .ok _
  · exact .invalid _

theorem Value.compareConverted_supported : Supported (v.compareConverted w) := by
  unfold compareConverted
  split
  · exact .ok _
  · refine (w.convert_supported _).bind fun converted _ => ?_
    split
    · exact .ok _
    · exact .invalid _

theorem Func.integerArgument_supported : Supported (integerArgument v) := by
  refine (v.convert_supported _).bind fun converted _ => ?_
  split
  · exact .ok _
  · exact .invalid _

theorem Func.eval_supported (f : Func) (args : List Value) : Supported (f.eval args) := by
  unfold eval
  split
  · exact .ok _
  split
  · exact .ok _
  unfold ofValues
  split
  case h_6 =>
    split
    · exact .overflow
    · exact .ok _
  case h_9 => exact (integerArgument_supported _).bind fun _ _ => .ok _
  case h_10 =>
    exact (integerArgument_supported _).bind fun _ _ =>
      (integerArgument_supported _).bind fun _ _ => .ok _
  case h_11 => exact .invalid _
  all_goals exact .ok _

theorem Filter.anyEqual_supported (cs : List Constant) : Supported (anyEqual v cs) := by
  induction cs with
  | nil => exact .ok _
  | cons c rest ih =>
    unfold anyEqual
    split
    · exact ih
    · refine (v.compareConverted_supported _).bind fun order _ => ?_
      split
      · exact .ok _
      · exact ih

theorem Filter.testOneOf_supported (cs : List Constant) : Supported (testOneOf v cs) := by
  unfold testOneOf
  split
  · exact .ok _
  · exact (anyEqual_supported v cs).map

theorem Filter.testCompare_supported (op : Comparison) (c : Constant) :
    Supported (testCompare v op c) := by
  unfold testCompare
  split
  · exact .ok _
  · exact (v.compareConverted_supported _).bind fun _ _ => .ok _

theorem Filter.testBetween_supported (low high : Constant) :
    Supported (testBetween v low high) := by
  unfold testBetween
  split
  · exact .ok _
  · refine (v.compareConverted_supported _).bind fun order _ => ?_
    split
    · exact .ok _
    · exact (v.compareConverted_supported _).bind fun _ _ => .ok _

end Values

section Expressions

open Dialect (DataView.dialect)

variable {t : Table} {row : Row}

theorem Table.position_supported {path : ColumnPath} {s : String}
    (written : DataView.dialect.column path = .ok s) : Supported (t.position path) := by
  have plain : path.isQualified = false := by
    by_contra qualified
    rw [Bool.not_eq_false] at qualified
    change Dialect.DataView.column path = .ok s at written
    rw [Dialect.DataView.column, if_pos qualified] at written
    cases written
  unfold position
  rw [plain]
  split
  · contradiction
  split
  · exact .ok _
  · exact .invalid _

theorem Dialect.DataView.aggregate_refused (f : Aggregate) (arg : Option String) (s : String) :
    DataView.dialect.aggregate f arg ≠ .ok s := by
  rintro ⟨⟩

mutual

/-- What the dialect writes, memory has. -/
theorem Expr.supported_of_render :
    (e : Expr) → ∀ s, e.render DataView.dialect = .ok s → Supported (t.eval row e)
  | .constant c, _, _ => .ok c.value
  | .column path, s, written =>
    (Table.position_supported (show DataView.dialect.column path = .ok s from written)).bind
      fun _ _ => .ok _
  | .function f args, s, written => by
    obtain ⟨_, count, written⟩ := bind_eq_ok_iff.mp written
    obtain ⟨texts, arguments, -⟩ := bind_eq_ok_iff.mp written
    rw [Table.eval, count]
    exact (Expr.supported_of_renderList args texts arguments).bind fun vs _ => f.eval_supported vs
  | .aggregate f (some e), s, written => by
    obtain ⟨arg, -, written⟩ := bind_eq_ok_iff.mp written
    exact absurd written (Dialect.DataView.aggregate_refused f (some arg) s)
  | .aggregate f none, s, written => by
    rw [Expr.render] at written
    split at written
    · exact absurd written (Dialect.DataView.aggregate_refused f none s)
    · cases written

theorem Expr.supported_of_renderList :
    (es : List Expr) → ∀ texts, Expr.renderList DataView.dialect es = .ok texts →
      Supported (t.evalList row es)
  | [], _, _ => .ok _
  | e :: rest, texts, written => by
    obtain ⟨text, first, written⟩ := bind_eq_ok_iff.mp written
    obtain ⟨others, later, -⟩ := bind_eq_ok_iff.mp written
    refine (Expr.supported_of_render e text first).bind fun v _ => ?_
    exact (Expr.supported_of_renderList rest others later).bind fun _ _ => .ok _

end

theorem Expr.supported_of_renderOrDefault {e : Expr} {type : ColumnType} {s : String}
    (written : e.renderOrDefault DataView.dialect type = .ok s) : Supported (t.eval row e) := by
  cases e with
  | column path =>
    obtain ⟨text, column, -⟩ := bind_eq_ok_iff.mp written
    exact Expr.supported_of_render (.column path) text column
  | _ => exact Expr.supported_of_render _ s written

theorem Table.evalOrDefault_supported {e : Expr} (type : ColumnType)
    (h : Supported (t.eval row e)) : Supported (t.evalOrDefault row e type) :=
  h.bind fun _ _ => .ok _

end Expressions

namespace Filter

open Dialect (DataView.dialect)

variable {t : Table} {row : Row} {fault : Fault}

theorem written_of_compile {d : Dialect} {mode : ParamMode} {f : Filter} {s : Statement}
    (taken : f.compile d mode = .ok s) : f.Written d := by
  refine ⟨.empty mode, ((f.emit d).run.run (.empty mode)).2, Prod.ext ?_ rfl⟩
  unfold compile Emit.compile at taken
  split at taken
  · rename_i b ended
    rw [ended]
  · cases taken

/-! ## Leaves -/

theorem supported_of_emitCompare {e : Expr} {op : Comparison} {c : Constant}
    {nullAsDefault : Bool} {b b' : Buffer}
    (written : Writes (emitCompare DataView.dialect e op c nullAsDefault) b b') :
    Supported (t.test row (.compare e op c nullAsDefault)) := by
  rw [Table.test]
  unfold emitCompare at written
  split at written
  · obtain ⟨lhs, text, -⟩ := writes_attempt.mp written
    rename_i null
    rw [if_pos null]
    exact (e.supported_of_render lhs text).bind fun _ _ => .ok _
  · obtain ⟨lhs, text, -⟩ := writes_attempt.mp written
    rename_i given
    rw [if_neg given]
    cases nullAsDefault with
    | true =>
      have side : Supported (t.eval row e) := Expr.supported_of_renderOrDefault text
      exact (Table.evalOrDefault_supported c.type side).bind fun v _ => testCompare_supported v op c
    | false => exact (e.supported_of_render lhs text).bind fun v _ => testCompare_supported v op c

theorem supported_of_emitOneOf {e : Expr} {values : List Constant} (some_value : values ≠ [])
    {b b' : Buffer} (written : Writes (emitOneOf DataView.dialect e values) b b') :
    Supported (t.test row (.oneOf e values)) := by
  unfold emitOneOf at written
  rw [if_neg (by simpa using some_value)] at written
  obtain ⟨lhs, text, -⟩ := writes_attempt.mp written
  exact (e.supported_of_render lhs text).bind fun v _ => testOneOf_supported v values

theorem eval_supported_of_emitLike {e : Expr} {pattern : String} {b b' : Buffer}
    (written : Writes (emitLike DataView.dialect e pattern) b b') : Supported (t.eval row e) := by
  obtain ⟨lhs, text, -⟩ := writes_attempt.mp written
  exact e.supported_of_render lhs text

theorem supported_of_emitBetween {e : Expr} {low high : Constant} {b b' : Buffer}
    (written : Writes (emitBetween DataView.dialect e low high) b b') :
    Supported (t.test row (.between e low high)) := by
  unfold emitBetween at written
  split at written
  · cases written
  · obtain ⟨lhs, text, -⟩ := writes_attempt.mp written
    rename_i given
    rw [Table.test, if_neg given]
    exact (e.supported_of_render lhs text).bind fun v _ => testBetween_supported v low high

/-- An empty list is tested as far as the expression is evaluated. -/
theorem test_empty_eq_error_iff {e : Expr} :
    t.test row (.oneOf e []) = .error fault ↔ t.eval row e = .error fault := by
  rw [Table.test]
  cases t.eval row e with
  | error other => exact Iff.of_eq (by simp [bind, Except.bind])
  | ok v =>
    have answered : ∃ p, testOneOf v [] = .ok p := by
      unfold testOneOf
      split
      · exact ⟨_, rfl⟩
      · exact ⟨some false, rfl⟩
    obtain ⟨p, answer⟩ := answered
    change testOneOf v [] = .error fault ↔ _
    rw [answer]
    simp

/-! ## Junctions -/

/-- Each of the filters has a verdict on the row, and none of them settles the junction. -/
def Undecided (t : Table) (row : Row) (settling : Bool) (parts : List Filter) : Prop :=
  ∀ f ∈ parts, ∃ p, t.test row f = .ok p ∧ p ≠ some settling

/-- A junction fails as the first of its parts that fails does, if no part in front settles it. -/
theorem junction_eq_error_iff {settling : Bool}
    (run : Option Bool → List Filter → Except Fault (Option Bool))
    (nothing : ∀ seen, run seen [] = .ok seen)
    (part : ∀ seen f rest, ∃ next : Option Bool → Option Bool, run seen (f :: rest) =
      t.test row f >>= fun p => if p = some settling then .ok p else run (next p) rest)
    {seen : Option Bool} {parts : List Filter} :
    run seen parts = .error fault ↔ ∃ before f after, parts = before ++ f :: after ∧
      Undecided t row settling before ∧ t.test row f = .error fault := by
  induction parts generalizing seen with
  | nil => simp [nothing]
  | cons first rest ih =>
    obtain ⟨next, step⟩ := part seen first rest
    rw [step]
    constructor
    · intro failed
      cases tested : t.test row first with
      | error other =>
        rw [tested] at failed
        cases failed
        exact ⟨[], first, rest, rfl, List.forall_mem_nil _, tested⟩
      | ok p =>
        by_cases settled : p = some settling
        · rw [tested] at failed
          change (if p = some settling then _ else _) = Except.error fault at failed
          rw [if_pos settled] at failed
          cases failed
        · rw [tested] at failed
          change (if p = some settling then _ else _) = Except.error fault at failed
          rw [if_neg settled] at failed
          obtain ⟨before, f, after, whole, undecided, inside⟩ := ih.mp failed
          refine ⟨first :: before, f, after, by rw [whole]; rfl, ?_, inside⟩
          exact List.forall_mem_cons.mpr ⟨⟨p, tested, settled⟩, undecided⟩
    · rintro ⟨before, f, after, whole, undecided, inside⟩
      cases before with
      | nil =>
        obtain ⟨rfl, rfl⟩ := List.cons.inj whole
        rw [inside]
        rfl
      | cons g before =>
        obtain ⟨rfl, rfl⟩ := List.cons.inj whole
        obtain ⟨⟨p, tested, unsettled⟩, undecided⟩ := List.forall_mem_cons.mp undecided
        rw [tested]
        change (if p = some settling then _ else _) = Except.error fault
        rw [if_neg unsettled]
        exact ih.mpr ⟨before, f, after, rfl, undecided, inside⟩

theorem test_and_eq_error_iff {parts : List Filter} :
    t.test row (.and parts) = .error fault ↔ ∃ before f after, parts = before ++ f :: after ∧
      Undecided t row false before ∧ t.test row f = .error fault := by
  rw [Table.test]
  apply junction_eq_error_iff (t.testAll row)
  · exact fun seen => by rw [Table.testAll]
  · intro seen f rest
    refine ⟨fun p => if p = none then none else seen, ?_⟩
    rw [Table.testAll]
    rcases t.test row f with _ | _ | _ | _ <;> rfl

theorem test_or_eq_error_iff {parts : List Filter} :
    t.test row (.or parts) = .error fault ↔ ∃ before f after, parts = before ++ f :: after ∧
      Undecided t row true before ∧ t.test row f = .error fault := by
  rw [Table.test]
  apply junction_eq_error_iff (t.testAny row)
  · exact fun seen => by rw [Table.testAny]
  · intro seen f rest
    refine ⟨fun p => if p = none then none else seen, ?_⟩
    rw [Table.testAny]
    rcases t.test row f with _ | _ | _ | _ <;> rfl

/-- The test of a row comes to a part of a filter: no part in front of it settles a junction that it
stands in. -/
inductive Reaches (t : Table) (row : Row) : Filter → Filter → Prop
  | here (f : Filter) : Reaches t row f f
  | not {part inner : Filter} (inside : Reaches t row part inner) : Reaches t row (.not part) inner
  | and {before after : List Filter} {f inner : Filter} (undecided : Undecided t row false before)
    (inside : Reaches t row f inner) : Reaches t row (.and (before ++ f :: after)) inner
  | or {before after : List Filter} {f inner : Filter} (undecided : Undecided t row true before)
    (inside : Reaches t row f inner) : Reaches t row (.or (before ++ f :: after)) inner

/-- What fails where the test comes to makes it fail. -/
theorem Reaches.test_eq_error {f inner : Filter} (reached : Reaches t row f inner)
    (failed : t.test row inner = .error fault) : t.test row f = .error fault := by
  induction reached with
  | here => exact failed
  | not _ ih =>
    rw [Table.test, ih failed]
    rfl
  | and undecided _ ih => exact test_and_eq_error_iff.mpr ⟨_, _, _, rfl, undecided, ih failed⟩
  | or undecided _ ih => exact test_or_eq_error_iff.mpr ⟨_, _, _, rfl, undecided, ih failed⟩

end Filter

mutual

/-- Among the filters that the dialect writes, only one that holds an empty list lacks support. -/
theorem Filter.reaches_empty {t : Table} {row : Row} {fault : Fault}
    (lacking : fault.isUnsupported = true) : (f : Filter) → f.Written Dialect.DataView.dialect →
      t.test row f = .error fault → ∃ e, Reaches t row f (.oneOf e []) ∧ t.eval row e = .error fault
  | .and parts, written, failed => by
    obtain ⟨before, f, after, whole, undecided, inside⟩ := test_and_eq_error_iff.mp failed
    have member : f ∈ parts := by simp [whole]
    obtain ⟨e, reached, evaluated⟩ :=
      Filter.reaches_emptyOf lacking parts written.of_and f member inside
    rw [whole]
    exact ⟨e, .and undecided reached, evaluated⟩
  | .or parts, written, failed => by
    obtain ⟨before, f, after, whole, undecided, inside⟩ := test_or_eq_error_iff.mp failed
    have member : f ∈ parts := by simp [whole]
    obtain ⟨e, reached, evaluated⟩ :=
      Filter.reaches_emptyOf lacking parts written.of_or f member inside
    rw [whole]
    exact ⟨e, .or undecided reached, evaluated⟩
  | .not part, written, failed => by
    have inside : t.test row part = .error fault := by
      rw [Table.test] at failed
      cases tested : t.test row part with
      | ok p =>
        rw [tested] at failed
        cases failed
      | error other =>
        rw [tested] at failed
        cases failed
        rfl
    obtain ⟨e, reached, evaluated⟩ := Filter.reaches_empty lacking part written.of_not inside
    exact ⟨e, .not reached, evaluated⟩
  | .oneOf e [], _, failed => ⟨e, .here _, test_empty_eq_error_iff.mp failed⟩
  | .oneOf e (c :: rest), written, failed => by
    obtain ⟨b, b', body⟩ := written_of_enclosed written
    exact absurd failed ((supported_of_emitOneOf (List.cons_ne_nil c rest) body).not_error lacking)
  | .compare e op c nullAsDefault, written, failed => by
    obtain ⟨b, b', body⟩ := written_of_enclosed written
    exact absurd failed ((supported_of_emitCompare body).not_error lacking)
  | .compareNull e negated, written, failed => by
    obtain ⟨b, b', body⟩ := written_of_enclosed written
    obtain ⟨lhs, text, -⟩ := writes_attempt.mp body
    have tested : Supported (t.test row (.compareNull e negated)) :=
      (e.supported_of_render lhs text).bind fun _ _ => .ok _
    exact absurd failed (tested.not_error lacking)
  | .startsWith e start, written, failed => by
    obtain ⟨b, b', body⟩ := written_of_enclosed written
    have tested : Supported (t.test row (.startsWith e start)) :=
      (eval_supported_of_emitLike body).bind fun _ _ => .ok _
    exact absurd failed (tested.not_error lacking)
  | .contains e needle, written, failed => by
    obtain ⟨b, b', body⟩ := written_of_enclosed written
    have tested : Supported (t.test row (.contains e needle)) :=
      (eval_supported_of_emitLike body).bind fun _ _ => .ok _
    exact absurd failed (tested.not_error lacking)
  | .inSubquery e q, written, _ => by
    obtain ⟨b, b', body⟩ := written_of_enclosed written
    cases body
  | .between e low high, written, failed => by
    obtain ⟨b, b', body⟩ := written_of_enclosed written
    exact absurd failed ((supported_of_emitBetween body).not_error lacking)
  | .constant b, _, failed => by
    rw [Table.test] at failed
    cases failed

theorem Filter.reaches_emptyOf {t : Table} {row : Row} {fault : Fault}
    (lacking : fault.isUnsupported = true) : (parts : List Filter) →
      (∀ f ∈ parts, f.Written Dialect.DataView.dialect) → ∀ f ∈ parts, t.test row f = .error fault →
        ∃ e, Reaches t row f (.oneOf e []) ∧ t.eval row e = .error fault
  | [], _ => List.forall_mem_nil _
  | first :: rest, written => by
    obtain ⟨here, later⟩ := List.forall_mem_cons.mp written
    exact List.forall_mem_cons.mpr ⟨Filter.reaches_empty lacking first here,
      Filter.reaches_emptyOf lacking rest later⟩

end

/-- A filter that the dialect of data views takes fails in memory for want of support exactly where
the test of the row comes to an empty list of an expression that cannot be evaluated. The dialect
would refuse that expression anywhere else, but the empty list it writes without it. -/
theorem Filter.unsupported_iff (t : Table) (row : Row) (f : Filter) {s : Statement}
    (taken : f.compile Builtin.dataView.dialect .inline = .ok s) {fault : Fault}
    (lacking : fault.isUnsupported = true) :
    t.test row f = .error fault ↔ ∃ e, Reaches t row f (.oneOf e []) ∧
      t.eval row e = .error fault ∧ ∀ text, e.render Builtin.dataView.dialect ≠ .ok text := by
  have written : f.Written Builtin.dataView.dialect := f.written_of_compile taken
  constructor
  · intro failed
    obtain ⟨e, reached, evaluated⟩ := f.reaches_empty lacking written failed
    exact ⟨e, reached, evaluated, fun text rendered =>
      (e.supported_of_render text rendered).not_error lacking evaluated⟩
  · rintro ⟨e, reached, evaluated, -⟩
    exact reached.test_eq_error (test_empty_eq_error_iff.mpr evaluated)

/-- Rows without a name, and a list without members that is asked of a column of another table. -/
def strangers : Filter :=
  .and [
    .compareNull (.column ⟨["Name"]⟩) false,
    .not (.oneOf (.function .trim [.column ⟨["Groups", "Name"]⟩]) [])]

/-- The name of the row is NULL, so the test comes to the list. -/
theorem Filter.unsupported_strangers :
    (strangers.compile Builtin.dataView.dialect .inline).map Statement.sql =
      .ok "([Name] IS NULL AND NOT (false))" ∧
    members.test [.int 1, .null] strangers =
      .error (.unsupported "DataView" (.qualifiedColumn "Groups.Name")) := by
  refine ⟨by decide +kernel, ?_⟩
  obtain ⟨s, taken⟩ : ∃ s, strangers.compile Builtin.dataView.dialect .inline = .ok s :=
    ⟨⟨_, [], none⟩, rfl⟩
  have first :
      Undecided members [.int 1, .null] false [.compareNull (.column ⟨["Name"]⟩) false] := by
    intro f member
    rw [List.mem_singleton.mp member]
    exact ⟨some true, by decide +kernel, by decide⟩
  have reached : Reaches members [.int 1, .null] strangers
      (.oneOf (.function .trim [.column ⟨["Groups", "Name"]⟩]) []) :=
    .and first (.not (.here _))
  refine (Filter.unsupported_iff members [.int 1, .null] strangers taken rfl).mpr
    ⟨_, reached, by decide +kernel, ?_⟩
  rintro text ⟨⟩

/-- A list with a member would be refused; the empty one is taken, and every row fails. -/
theorem Filter.empty_list_taken :
    ((oneOf (.column ⟨["Members", "Id"]⟩) []).compile Builtin.dataView.dialect .inline).map
      Statement.sql = .ok "false" ∧
    members.test [.int 1, .null] (.oneOf (.column ⟨["Members", "Id"]⟩) []) =
      .error (.unsupported "DataView" (.qualifiedColumn "Members.Id")) := by
  decide +kernel

end SqlScribe

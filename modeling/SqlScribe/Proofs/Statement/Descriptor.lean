import SqlScribe.Proofs.Condition.Emission
import SqlScribe.Proofs.Statement.Script
import SqlScribe.Statement.Delete
import SqlScribe.Statement.Insert
import SqlScribe.Statement.Update

/-!
# Descriptors

Everything that can be compiled to a statement, and the script that each of them is written by. The
script is the same whatever marks the dialect has for parameters.
-/

namespace SqlScribe

open Emit Sql

/-- Whatever the marks are, the step is one script. -/
def Emit.Scripted (d : Dialect) (step : (Nat → String) → Emit Unit) : Prop :=
  ∃ script, ∀ mark, step mark = Instruction.emitAll (d.withMarks mark) script

namespace Emit.Scripted

variable {d : Dialect} {α : Type}

theorem instruction (d : Dialect) (i : Instruction) :
    Scripted d fun mark => i.emit (d.withMarks mark) :=
  ⟨[i], fun _ => by simp [Instruction.emitAll]⟩

theorem text (d : Dialect) (s : String) : Scripted d fun _ => Emit.text s :=
  instruction d (.text s)

theorem value (d : Dialect) (v : Value) (type : ColumnType) :
    Scripted d fun mark => Emit.value (d.withMarks mark) v type := instruction d (.value v type)

theorem cap (d : Dialect) (rows : Nat) : Scripted d fun _ => Emit.cap rows :=
  instruction d (.cap rows)

theorem refuse (d : Dialect) (fault : Fault) : Scripted d fun _ => Emit.attempt (.error fault) :=
  instruction d (.refuse fault)

theorem nothing (d : Dialect) : Scripted d fun _ => pure () := ⟨[], fun _ => rfl⟩

theorem seq {step next : (Nat → String) → Emit Unit} (first : Scripted d step)
    (then_next : Scripted d next) : Scripted d fun mark => (do step mark; next mark) := by
  obtain ⟨script, written⟩ := first
  obtain ⟨more, later⟩ := then_next
  refine ⟨script ++ more, fun mark => ?_⟩
  rw [Instruction.emitAll_append, ← written, ← later]

/-- A text in front. -/
theorem cons {s : String} {next : (Nat → String) → Emit Unit} (then_next : Scripted d next) :
    Scripted d fun mark => (do Emit.text s; next mark) := seq (text d s) then_next

theorem attempt {r : Except Fault α} {next : (Nat → String) → α → Emit Unit}
    (h : ∀ a, r = .ok a → Scripted d (next · a)) :
    Scripted d fun mark => Emit.attempt r >>= next mark := by
  cases r with
  | ok a => exact h a rfl
  | error fault => exact refuse d fault

theorem branch {c : Prop} [Decidable c] {yes no : (Nat → String) → Emit Unit}
    (h : c → Scripted d yes) (h' : ¬ c → Scripted d no) :
    Scripted d fun mark => if c then yes mark else no mark := by
  by_cases holds : c
  · simp only [if_pos holds]
    exact h holds
  · simp only [if_neg holds]
    exact h' holds

/-- A step that is taken or left out before others. -/
theorem optional {c : Prop} [Decidable c] {step next : (Nat → String) → Emit Unit}
    (h : c → Scripted d step) (then_next : Scripted d next) :
    Scripted d fun mark => if c then (do step mark; next mark) else next mark :=
  branch (fun holds => seq (h holds) then_next) fun _ => then_next

end Emit.Scripted

/-- Whatever the marks are, the steps are the same scripts. -/
def Emit.ScriptedAll (d : Dialect) (steps : (Nat → String) → List (Emit Unit)) : Prop :=
  ∃ scripts : List (List Instruction),
    ∀ mark, steps mark = scripts.map (Instruction.emitAll (d.withMarks mark))

namespace Emit.ScriptedAll

variable {d : Dialect} {steps more : (Nat → String) → List (Emit Unit)}

theorem map {β : Type} {step : (Nat → String) → β → Emit Unit} {xs : List β}
    (h : ∀ x ∈ xs, Scripted d (step · x)) : ScriptedAll d fun mark => xs.map (step mark) := by
  induction xs with
  | nil => exact ⟨[], fun _ => rfl⟩
  | cons x rest ih =>
    obtain ⟨script, written⟩ := h x List.mem_cons_self
    obtain ⟨scripts, others⟩ := ih fun y member => h y (List.mem_cons_of_mem _ member)
    refine ⟨script :: scripts, fun mark => ?_⟩
    exact congrArg₂ List.cons (written mark) (others mark)

theorem append (h : ScriptedAll d steps) (h' : ScriptedAll d more) :
    ScriptedAll d fun mark => steps mark ++ more mark := by
  obtain ⟨scripts, written⟩ := h
  obtain ⟨others, later⟩ := h'
  refine ⟨scripts ++ others, fun mark => ?_⟩
  dsimp only
  rw [List.map_append, written, later]

theorem separated (sep : String) (h : ScriptedAll d steps) :
    Scripted d fun mark => Emit.separated sep (steps mark) := by
  obtain ⟨scripts, written⟩ := h
  simp only [written]
  induction scripts generalizing steps with
  | nil => exact .nothing d
  | cons script rest ih =>
    have first : Scripted d fun mark => Instruction.emitAll (d.withMarks mark) script :=
      ⟨script, fun _ => rfl⟩
    cases rest with
    | nil => exact first
    | cons next others => exact first.seq (.cons (ih fun _ => rfl))

theorem junction (sep : String) (empty : Bool) (h : ScriptedAll d steps) :
    Scripted d fun mark => Emit.junction (d.withMarks mark) sep empty (steps mark) := by
  have all := h.separated sep
  obtain ⟨scripts, written⟩ := h
  simp only [written] at all ⊢
  match scripts with
  | [] => exact .text d (d.truth empty)
  | [_] => exact all
  | _ :: _ :: _ => exact .cons (all.seq (.text d ")"))

end Emit.ScriptedAll

namespace Dialect

variable (d : Dialect) (mark : Nat → String)

@[simp] theorem features_withMarks : (d.withMarks mark).features = d.features := rfl

@[simp] theorem rowLimit_withMarks : (d.withMarks mark).rowLimit = d.rowLimit := rfl

@[simp] theorem identifier_withMarks (name : String) :
    (d.withMarks mark).identifier name = d.identifier name := rfl

@[simp] theorem tableName_withMarks (table : String) :
    (d.withMarks mark).tableName table = d.tableName table := rfl

@[simp] theorem lacks_withMarks {α : Type} (feature : Feature) :
    ((d.withMarks mark).lacks feature : Except Fault α) = d.lacks feature := rfl

end Dialect

mutual

theorem Expr.render_withMarks (d : Dialect) (mark : Nat → String) :
    (e : Expr) → e.render (d.withMarks mark) = e.render d
  | .constant c => rfl
  | .column path => rfl
  | .function f args => by
    simp only [Expr.render]
    rw [Expr.renderList_withMarks d mark args]
    rfl
  | .aggregate f (some e) => by
    simp only [Expr.render]
    rw [Expr.render_withMarks d mark e]
    rfl
  | .aggregate f none => rfl

theorem Expr.renderList_withMarks (d : Dialect) (mark : Nat → String) :
    (es : List Expr) → Expr.renderList (d.withMarks mark) es = Expr.renderList d es
  | [] => rfl
  | e :: rest => by
    simp only [Expr.renderList]
    rw [Expr.render_withMarks d mark e, Expr.renderList_withMarks d mark rest]

end

theorem Expr.renderOrDefault_withMarks (d : Dialect) (mark : Nat → String) (type : ColumnType)
    (e : Expr) : e.renderOrDefault (d.withMarks mark) type = e.renderOrDefault d type := by
  unfold Expr.renderOrDefault
  rw [Expr.render_withMarks]
  rfl

theorem NamedExpr.render_withMarks (d : Dialect) (mark : Nat → String) (n : NamedExpr) :
    n.render (d.withMarks mark) = n.render d := by
  unfold NamedExpr.render
  rw [Expr.render_withMarks]
  rfl

theorem OrderTerm.render_withMarks (d : Dialect) (mark : Nat → String) (t : OrderTerm) :
    t.render (d.withMarks mark) = t.render d := by
  unfold OrderTerm.render
  simp only [Expr.render_withMarks]
  rfl

theorem Order.render_withMarks (d : Dialect) (mark : Nat → String) (order : Order) :
    Order.render (d.withMarks mark) order = Order.render d order := by
  simp only [Order.render, OrderTerm.render_withMarks]

namespace Filter

variable (d : Dialect)

theorem emitCompare_scripted (e : Expr) (op : Comparison) (c : Constant) (nullAsDefault : Bool) :
    Scripted d fun mark => emitCompare (d.withMarks mark) e op c nullAsDefault := by
  simp only [emitCompare, Expr.render_withMarks, Expr.renderOrDefault_withMarks]
  have value : Scripted d fun mark => c.emit (d.withMarks mark) := .value d c.value c.type
  apply Scripted.branch
  · intro _
    apply Scripted.attempt
    intro lhs _
    cases op with
    | eq | ne => exact .cons (.text d _)
    | lt | le | gt | ge => exact .text d (d.truth false)
  · intro _
    apply Scripted.attempt
    intro lhs _
    apply Scripted.branch
    · intro _
      exact .cons (.cons (.cons (value.seq (.cons (.cons (.cons (.text d ")")))))))
    · intro _
      exact .cons (.cons value)

theorem emitBetween_scripted (e : Expr) (low high : Constant) :
    Scripted d fun mark => emitBetween (d.withMarks mark) e low high := by
  simp only [emitBetween, Expr.render_withMarks]
  have lowest : Scripted d fun mark => low.emit (d.withMarks mark) := .value d low.value low.type
  have highest : Scripted d fun mark => high.emit (d.withMarks mark) :=
    .value d high.value high.type
  apply Scripted.branch
  · intro _
    exact .refuse d _
  · intro _
    apply Scripted.attempt
    intro lhs _
    apply Scripted.branch (c := d.features.between = true)
    · intro _
      exact .cons (.cons (lowest.seq (.cons highest)))
    · intro _
      exact .cons (.cons (.cons (lowest.seq (.cons (.cons (.cons (highest.seq (.text d ")"))))))))

theorem emitLike_scripted (e : Expr) (pattern : String) :
    Scripted d fun mark => emitLike (d.withMarks mark) e pattern := by
  simp only [emitLike, Expr.render_withMarks]
  apply Scripted.attempt
  intro lhs _
  exact .cons (.cons ((Scripted.value d _ _).seq (.text d _)))

theorem emitGroup_scripted (lhs : String) (group : List Constant) :
    Scripted d fun mark => emitGroup (d.withMarks mark) lhs group := by
  have members : ScriptedAll d fun mark => group.map (·.emit (d.withMarks mark)) :=
    .map fun c _ => .value d c.value c.type
  exact .cons (.cons (.cons ((members.separated ", ").seq (.text d ")"))))

/-- The steps that write the terms of a list. -/
def emitTerms (lhs : String) (values : List Constant) : List (Emit Unit) :=
  (inGroups d.features.maxInList (values.filter (!·.isNull))).map (emitGroup d lhs) ++
    if values.any (·.isNull) then [do text lhs; text " IS NULL"] else []

theorem emitTerms_scripted (lhs : String) (values : List Constant) :
    ScriptedAll d fun mark => emitTerms (d.withMarks mark) lhs values := by
  have groups : ScriptedAll d fun mark =>
      (inGroups d.features.maxInList (values.filter (!·.isNull))).map
        (emitGroup (d.withMarks mark) lhs) := .map fun group _ => emitGroup_scripted d lhs group
  have null : ScriptedAll d fun _ =>
      if values.any (·.isNull) then [do text lhs; text " IS NULL"] else [] := by
    cases values.any (·.isNull) with
    | true =>
      obtain ⟨script, written⟩ : Scripted d fun _ => (do text lhs; text " IS NULL") :=
        .cons (.text d _)
      exact ⟨[script], fun mark => congrArg (fun step => [step]) (written mark)⟩
    | false => exact ⟨[], fun _ => rfl⟩
  exact groups.append null

theorem emitTerms_ne_nil (e : Expr) (lhs : String) {values : List Constant} (h : values ≠ []) :
    emitTerms d lhs values ≠ [] := by
  have terms : (emitTerms d lhs values).length = (oneOfTerms d e values).length := by
    unfold emitTerms oneOfTerms
    split <;> simp
  intro nothing
  rw [nothing] at terms
  exact oneOfTerms_ne_nil d e h (List.length_eq_zero_iff.mp terms.symm)

theorem emitOneOf_eq (e : Expr) {values : List Constant} (something : values ≠ []) :
    emitOneOf d e values =
      attempt (e.render d) >>= fun lhs => junction d " OR " false (emitTerms d lhs values) := by
  unfold emitOneOf
  rw [if_neg (by simpa using something)]
  dsimp only
  congr 1
  funext lhs
  exact junction_counted d " OR " false (emitTerms_ne_nil d e lhs something)

theorem emitOneOf_scripted (e : Expr) (values : List Constant) :
    Scripted d fun mark => emitOneOf (d.withMarks mark) e values := by
  by_cases nothing : values = []
  · subst nothing
    exact .text d (d.truth false)
  · simp only [emitOneOf_eq _ e nothing, Expr.render_withMarks]
    apply Scripted.attempt
    intro lhs _
    exact (emitTerms_scripted d lhs values).junction " OR " false

theorem enclosed_scripted {body : (Nat → String) → Emit Unit} (h : Scripted d body) :
    Scripted d fun mark => Emit.enclosed (d.withMarks mark) (body mark) := by
  apply Scripted.branch (c := d.features.parenthesizeFilters = true)
  · intro _
    exact .cons (h.seq (.text d ")"))
  · intro _
    exact h

theorem compareNull_scripted (e : Expr) (negated : Bool) :
    Scripted d fun mark => (do
      text (← attempt (e.render (d.withMarks mark)))
      text (if negated then " IS NOT NULL" else " IS NULL")) := by
  simp only [Expr.render_withMarks]
  apply Scripted.attempt
  intro lhs _
  exact .cons (.text d _)

end Filter

namespace QueryOf

variable {Condition : Type} (d : Dialect) (q : QueryOf Condition)

/-- The table, under its other name if it has one. -/
theorem emitSource_scripted : Scripted d fun _ => (do
    text " FROM "
    text (← attempt (d.tableName q.table))
    match q.tableAlias with
    | none => pure ()
    | some name =>
      if !d.features.tableAlias then attempt (d.lacks .tableAlias)
      else
        text " AS "
        text (← attempt (d.identifier name))) := by
  apply Scripted.cons
  apply Scripted.attempt
  intro table _
  apply Scripted.cons
  cases q.tableAlias with
  | none => exact .nothing d
  | some name =>
    apply Scripted.branch
    · intro _
      exact .refuse d _
    · intro _
      exact .cons (.attempt fun name _ => .text d name)

theorem emitHead_scripted : Scripted d fun mark => q.emitHead (d.withMarks mark) := by
  simp only [emitHead, NamedExpr.render_withMarks, Dialect.rowLimit_withMarks,
    Dialect.tableName_withMarks, Dialect.features_withMarks, Dialect.lacks_withMarks,
    Dialect.identifier_withMarks]
  have source := emitSource_scripted d q
  apply Scripted.cons
  apply Scripted.optional fun _ => .text d _
  apply Scripted.optional fun _ => .text d _
  apply Scripted.branch
  · intro _
    exact .cons source
  · intro _
    exact .attempt fun columns _ => .cons source

theorem emitGroups_scripted : Scripted d fun mark => q.emitGroups (d.withMarks mark) := by
  simp only [emitGroups, Expr.render_withMarks]
  apply Scripted.branch
  · intro _
    exact .nothing d
  · intro _
    exact .attempt fun groups _ => .cons (.text d _)

/-- The cap of rows, where a dialect writes it last. -/
theorem emitCap_scripted (nested : Bool) : Scripted d fun _ =>
    if 0 < q.maxRows then
      match d.rowLimit with
      | .top => pure ()
      | .limit => text (" LIMIT " ++ Text.numeral q.maxRows)
      | .driver => if nested then attempt (d.lacks .subqueryRowLimit) else Emit.cap q.maxRows
    else pure () := by
  apply Scripted.branch
  · intro _
    cases d.rowLimit with
    | top => exact .nothing d
    | limit => exact .text d _
    | driver => exact .branch (fun _ => .refuse d _) fun _ => .cap d q.maxRows
  · intro _
    exact .nothing d

theorem emitTail_scripted (nested : Bool) :
    Scripted d fun mark => q.emitTail (d.withMarks mark) nested := by
  simp only [emitTail, Order.render_withMarks, Dialect.rowLimit_withMarks, Dialect.lacks_withMarks]
  have capped := emitCap_scripted d q nested
  split
  · exact capped
  · exact capped
  · exact .cons (.attempt fun order _ => .cons capped)

end QueryOf

theorem Filter.checkSubquery_withMarks (d : Dialect) (mark : Nat → String) (q : Select) :
    checkSubquery (d.withMarks mark) q = checkSubquery d q := rfl

mutual

theorem Filter.emit_scripted (d : Dialect) :
    (f : Filter) → Scripted d fun mark => f.emit (d.withMarks mark)
  | .and parts => by
    simp only [Filter.emit_and]
    exact (Filter.emit_scriptedAll d parts).junction " AND " true
  | .or parts => by
    simp only [Filter.emit_or]
    exact (Filter.emit_scriptedAll d parts).junction " OR " false
  | .not part => .cons (.cons ((part.emit_scripted d).seq (.text d ")")))
  | .compare e op c nullAsDefault =>
    Filter.enclosed_scripted d (Filter.emitCompare_scripted d e op c nullAsDefault)
  | .compareNull e negated => Filter.enclosed_scripted d (Filter.compareNull_scripted d e negated)
  | .oneOf e values => Filter.enclosed_scripted d (Filter.emitOneOf_scripted d e values)
  | .startsWith e start =>
    Filter.enclosed_scripted d (Filter.emitLike_scripted d e (d.escapeLike start ++ "%"))
  | .contains e needle =>
    Filter.enclosed_scripted d (Filter.emitLike_scripted d e ("%" ++ d.escapeLike needle ++ "%"))
  | .inSubquery e q => by
    have query := Filter.emitQuery_scripted d true q
    apply Filter.enclosed_scripted
    simp only [Expr.render_withMarks, Filter.checkSubquery_withMarks]
    exact .attempt fun _ _ => .attempt fun lhs _ => .cons (.cons (query.seq (.text d ")")))
  | .between e low high => Filter.enclosed_scripted d (Filter.emitBetween_scripted d e low high)
  | .constant b => Filter.enclosed_scripted d (.text d (d.truth b))

theorem Filter.emit_scriptedAll (d : Dialect) :
    (parts : List Filter) → ScriptedAll d fun mark => parts.map (·.emit (d.withMarks mark))
  | [] => ⟨[], fun _ => rfl⟩
  | f :: rest => by
    obtain ⟨script, written⟩ := f.emit_scripted d
    obtain ⟨scripts, others⟩ := Filter.emit_scriptedAll d rest
    exact ⟨script :: scripts, fun mark => congrArg₂ List.cons (written mark) (others mark)⟩

theorem Filter.emitCondition_scripted (d : Dialect) (keyword : String) :
    (f : Option Filter) → Scripted d fun mark => Filter.emitCondition (d.withMarks mark) keyword f
  | none => .nothing d
  | some f => .cons (f.emit_scripted d)

theorem Filter.emitQuery_scripted (d : Dialect) (nested : Bool) :
    (q : QueryOf Filter) → Scripted d fun mark => Filter.emitQuery (d.withMarks mark) nested q
  | ⟨table, tableAlias, columns, filter, groupBy, having, order, maxRows, distinct⟩ => by
    have filtered := Filter.emitCondition_scripted d " WHERE " filter
    have restricted := Filter.emitCondition_scripted d " HAVING " having
    simp only [Filter.emitQuery]
    exact (QueryOf.emitHead_scripted d _).seq (filtered.seq
      ((QueryOf.emitGroups_scripted d _).seq (restricted.seq (QueryOf.emitTail_scripted d _ nested))))

end

theorem QueryOf.emit_scripted (d : Dialect) (q : Select) :
    Scripted d fun mark => QueryOf.emit (d.withMarks mark) q := by
  apply Scripted.branch (c := d.selects = true)
  · intro _
    exact Filter.emitQuery_scripted d false q
  · intro _
    exact .refuse d (.unsupported d.name .selectStatements)

namespace Insert

variable (d : Dialect)

theorem emitRows_scripted (columns : List Column) (index : Nat) (rows : List (List Value)) :
    Scripted d fun mark => emitRows (d.withMarks mark) columns index rows := by
  induction rows generalizing index with
  | nil => exact .nothing d
  | cons row rest ih =>
    have cells : Scripted d fun mark => emitCells (d.withMarks mark) (row.zip columns) :=
      (ScriptedAll.map fun cell _ => .value d cell.1 cell.2.type).separated ", "
    simp only [emitRows]
    apply Scripted.optional
    · intro _
      exact .refuse d _
    · exact .cons (cells.seq (.cons (ih (index + 1))))

theorem emit_scripted (i : Insert) : Scripted d fun mark => i.emit (d.withMarks mark) := by
  have rows := emitRows_scripted d i.columns 0 i.rows
  simp only [emit, Dialect.tableName_withMarks, Dialect.identifier_withMarks]
  apply Scripted.attempt (r := i.check d)
  intro _ _
  exact .cons (.attempt fun table _ => .cons (.attempt fun names _ => .cons rows))

end Insert

theorem Update.emit_scripted (d : Dialect) (u : Update) :
    Scripted d fun mark => u.emit (d.withMarks mark) := by
  have assignments : ScriptedAll d fun mark => u.set.map (emitAssignment (d.withMarks mark)) := by
    apply ScriptedAll.map
    intro assignment _
    simp only [emitAssignment, Dialect.identifier_withMarks]
    exact .attempt fun name _ => .cons (.cons (.value d _ _))
  have condition := Filter.emitCondition_scripted d " WHERE " u.filter
  simp only [Update.emit, Dialect.tableName_withMarks]
  apply Scripted.optional
  · intro _
    exact .refuse d _
  · exact .cons (.attempt fun table _ =>
      .cons (.cons ((assignments.separated ", ").seq condition)))

theorem Delete.emit_scripted (d : Dialect) (x : Delete) :
    Scripted d fun mark => x.emit (d.withMarks mark) := by
  have condition := Filter.emitCondition_scripted d " WHERE " x.filter
  simp only [Delete.emit, Dialect.tableName_withMarks]
  exact .cons (.attempt fun table _ => .cons condition)

/-- Something that is compiled to a statement. -/
inductive Descriptor
  | select (q : Select)
  | filter (f : Filter)
  | insert (i : Insert)
  | update (u : Update)
  | delete (x : Delete)

namespace Descriptor

/-- Writes the statement. -/
def emit (d : Dialect) : Descriptor → Emit Unit
  | select q => q.emit d
  | filter f => f.emit d
  | insert i => i.emit d
  | update u => u.emit d
  | delete x => x.emit d

/-- The statement. -/
def compile (d : Dialect) (mode : ParamMode) : Descriptor → Except Fault Statement
  | select q => q.compile d mode
  | filter f => f.compile d mode
  | insert i => i.compile d mode
  | update u => u.compile d mode
  | delete x => x.compile d mode

theorem compile_eq (d : Dialect) (mode : ParamMode) (x : Descriptor) :
    x.compile d mode = Emit.compile d mode (x.emit d) := by
  cases x <;> rfl

theorem emit_scripted (d : Dialect) (x : Descriptor) :
    Scripted d fun mark => x.emit (d.withMarks mark) := by
  cases x with
  | select q => exact q.emit_scripted d
  | filter f => exact f.emit_scripted d
  | insert i => exact i.emit_scripted d
  | update u => exact u.emit_scripted d
  | delete x => exact x.emit_scripted d

/-- In every mode and for all marks the same script is compiled. -/
theorem compile_scripted (d : Dialect) (x : Descriptor) :
    ∃ script, ∀ mode mark, x.compile (d.withMarks mark) mode =
      Emit.compile (d.withMarks mark) mode (Instruction.emitAll (d.withMarks mark) script) := by
  obtain ⟨script, written⟩ := x.emit_scripted d
  exact ⟨script, fun mode mark => (x.compile_eq _ mode).trans (congrArg _ (written mark))⟩

end Descriptor

end SqlScribe

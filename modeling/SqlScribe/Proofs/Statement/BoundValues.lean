import SqlScribe.Proofs.Statement.Refilling

/-!
# Values that are bound

A condition, a query or a change tells by its form which values it writes, in order: the constants
that it compares with, the entries of its lists, the patterns, the cells it sets, and all of these
in its subqueries. In bind mode the parameters of the statement are those of the values that the
dialect binds, one each.
-/

namespace SqlScribe

open Emit

/-- Constants, as they are written. -/
def Constant.cell (c : Constant) : Cell := (c.value, c.type)

mutual

/-- The values that a filter writes. NULL is never one of them: it is asked for in other ways. -/
def Filter.cells (d : Dialect) : Filter → List Cell
  | .and parts | .or parts => Filter.cellsOfAll d parts
  | .not part => part.cells d
  | .compare _ _ c _ => if c.isNull then [] else [c.cell]
  | .compareNull _ _ | .constant _ => []
  | .oneOf _ values => (values.filter (!·.isNull)).map Constant.cell
  | .startsWith _ start => [(.string (d.escapeLike start ++ "%"), .string)]
  | .contains _ needle => [(.string ("%" ++ d.escapeLike needle ++ "%"), .string)]
  | .inSubquery _ q => Filter.cellsOfQuery d q
  | .between _ low high => [low.cell, high.cell]

def Filter.cellsOfAll (d : Dialect) : List Filter → List Cell
  | [] => []
  | f :: rest => f.cells d ++ Filter.cellsOfAll d rest

/-- The values that a condition writes, if there is one. -/
def Filter.cellsOfCondition (d : Dialect) : Option Filter → List Cell
  | none => []
  | some f => f.cells d

/-- The values that a query writes: those of its condition on rows, then of that on groups. -/
def Filter.cellsOfQuery (d : Dialect) : QueryOf Filter → List Cell
  | ⟨_, _, _, filter, _, having, _, _, _⟩ =>
    Filter.cellsOfCondition d filter ++ Filter.cellsOfCondition d having

end

/-- The values that a statement writes. -/
def Descriptor.cells (d : Dialect) : Descriptor → List Cell
  | .select q => Filter.cellsOfQuery d q
  | .filter f => f.cells d
  | .insert i => i.rows.flatMap (cellsOf i.columns)
  | .update u =>
    (u.set.map fun assignment => (assignment.2, assignment.1.type)) ++
      Filter.cellsOfCondition d u.filter
  | .delete x => Filter.cellsOfCondition d x.filter

namespace Dialect

/-- The parameters that values become: one for each of those that the dialect binds, in order. -/
def BindsAs (d : Dialect) (cells : List Cell) (params : List Param) : Prop :=
  (cells.filter fun cell => d.binds cell.2).mapM d.parameter = .ok params

variable {d : Dialect} {cells others : List Cell} {params more : List Param}

theorem BindsAs.append (h : d.BindsAs cells params) (h' : d.BindsAs others more) :
    d.BindsAs (cells ++ others) (params ++ more) := by
  unfold BindsAs at *
  rw [List.filter_append, List.mapM_append, h, h']
  rfl

end Dialect

/-- In bind mode the step adds the parameters of some values. -/
def Emit.Sends (d : Dialect) (step : Emit Unit) (cells : List Cell) : Prop :=
  ∀ b b', b.mode = .bind → Writes step b b' →
    b'.mode = .bind ∧ ∃ params, d.BindsAs cells params ∧
      b'.params.toList = b.params.toList ++ params

namespace Emit.Sends

variable {d : Dialect} {α : Type} {step next : Emit Unit} {cells others : List Cell}

/-- A step that leaves the parameters as they are. -/
theorem keeps (h : ∀ b b', Writes step b b' → b'.mode = b.mode ∧ b'.params = b.params) :
    Sends d step [] := by
  intro b b' mode written
  obtain ⟨same, params⟩ := h b b' written
  exact ⟨same.trans mode, [], rfl, by rw [params, List.append_nil]⟩

theorem nothing (d : Dialect) : Sends d (pure ()) [] := by
  apply keeps
  rintro b b' ⟨⟩
  exact ⟨rfl, rfl⟩

theorem text (d : Dialect) (s : String) : Sends d (Emit.text s) [] := by
  apply keeps
  rintro b b' ⟨⟩
  exact ⟨rfl, rfl⟩

theorem cap (d : Dialect) (rows : Nat) : Sends d (Emit.cap rows) [] := by
  apply keeps
  rintro b b' ⟨⟩
  exact ⟨rfl, rfl⟩

theorem refuse (d : Dialect) (fault : Fault) (cells : List Cell) :
    Sends d (Emit.attempt (.error fault)) cells := by
  rintro b b' mode ⟨⟩

theorem seq (first : Sends d step cells) (then_next : Sends d next others) :
    Sends d (do step; next) (cells ++ others) := by
  intro b b' mode written
  obtain ⟨m, earlier, later⟩ := (writes_seq step next b b').mp written
  obtain ⟨mode', params, bound, added⟩ := first b m mode earlier
  obtain ⟨mode'', more, bound', added'⟩ := then_next m b' mode' later
  refine ⟨mode'', params ++ more, bound.append bound', ?_⟩
  rw [added', added, List.append_assoc]

/-- A text in front. -/
theorem cons {s : String} (then_next : Sends d next cells) :
    Sends d (do Emit.text s; next) cells := (text d s).seq then_next

/-- A step behind that adds nothing. -/
theorem trailed (first : Sends d step cells) (last : Sends d next []) :
    Sends d (do step; next) cells := List.append_nil cells ▸ first.seq last

/-- A text behind. -/
theorem closed {s : String} (first : Sends d step cells) :
    Sends d (do step; Emit.text s) cells := first.trailed (text d s)

theorem attempt {r : Except Fault α} {next : α → Emit Unit}
    (h : ∀ a, Sends d (next a) cells) : Sends d (Emit.attempt r >>= next) cells := by
  intro b b' mode written
  obtain ⟨a, -, later⟩ := writes_attempt.mp written
  exact h a b b' mode later

theorem branch {c : Prop} [Decidable c] {yes no : Emit Unit} (h : c → Sends d yes cells)
    (h' : ¬ c → Sends d no cells) : Sends d (if c then yes else no) cells := by
  by_cases holds : c
  · rw [if_pos holds]
    exact h holds
  · rw [if_neg holds]
    exact h' holds

/-- A text that is written or left out before other steps. -/
theorem optional {c : Prop} [Decidable c] {s : String} (then_next : Sends d next cells) :
    Sends d (if c then (do Emit.text s; next) else next) cells :=
  branch (fun _ => cons then_next) fun _ => then_next

theorem enclosed (h : Sends d step cells) : Sends d (Emit.enclosed d step) cells :=
  branch (fun _ => cons h.closed) fun _ => h

/-- A value is one parameter where the dialect binds it, and text elsewhere. -/
theorem value (d : Dialect) (v : Value) (type : ColumnType) :
    Sends d (Emit.value d v type) [(v, type)] := by
  intro b b' mode written
  obtain ⟨p, piece, rfl⟩ := writes_value.mp written
  rw [mode] at piece
  refine ⟨(Buffer.mode_add _ b p).trans mode, ?_⟩
  by_cases takes : d.features.parameters = true
  · have preferred : d.preferredMode = .bind := if_pos takes
    rw [← preferred] at piece
    by_cases binds : d.binds type = true
    · rw [Dialect.valuePiece_of_binds binds, map_eq_ok_iff] at piece
      obtain ⟨q, made, rfl⟩ := piece
      refine ⟨[q], ?_, Array.toList_push⟩
      simp [Dialect.BindsAs, binds, made, bind, Except.bind, pure, Except.pure]
    · rw [Bool.not_eq_true] at binds
      rw [Dialect.valuePiece_of_not_binds binds, map_eq_ok_iff] at piece
      obtain ⟨s, -, rfl⟩ := piece
      refine ⟨[], ?_, (List.append_nil _).symm⟩
      simp [Dialect.BindsAs, binds, pure, Except.pure]
  · rw [Dialect.valuePiece, if_pos (by simpa using takes)] at piece
    cases piece

end Emit.Sends

/-- Steps that add the parameters of some values one after the other. -/
inductive Emit.SendsAll (d : Dialect) : List (Emit Unit) → List Cell → Prop
  | nil : SendsAll d [] []
  | cons {step : Emit Unit} {steps : List (Emit Unit)} {cells others : List Cell}
      (first : Sends d step cells) (rest : SendsAll d steps others) :
      SendsAll d (step :: steps) (cells ++ others)

namespace Emit.SendsAll

variable {d : Dialect} {α : Type} {steps more : List (Emit Unit)} {cells others : List Cell}

theorem map {step : α → Emit Unit} {cells : α → List Cell} (h : ∀ x, Sends d (step x) (cells x))
    (xs : List α) : SendsAll d (xs.map step) (xs.flatMap cells) := by
  induction xs with
  | nil => exact .nil
  | cons x rest ih => exact .cons (h x) ih

theorem one {step : Emit Unit} (h : Sends d step cells) : SendsAll d [step] cells :=
  List.append_nil cells ▸ .cons h .nil

theorem append (h : SendsAll d steps cells) (h' : SendsAll d more others) :
    SendsAll d (steps ++ more) (cells ++ others) := by
  induction h with
  | nil => exact h'
  | cons first _ ih =>
    rw [List.append_assoc]
    exact .cons first ih

/-- A text between neighbours. -/
theorem separated (sep : String) (h : SendsAll d steps cells) :
    Sends d (Emit.separated sep steps) cells := by
  induction h with
  | nil => exact .nothing d
  | @cons step steps cells others first rest ih =>
    cases rest with
    | nil =>
      rw [List.append_nil]
      exact first
    | cons second rest => exact first.seq (.cons ih)

theorem junction (sep : String) (empty : Bool) (h : SendsAll d steps cells) :
    Sends d (Emit.junction d sep empty steps) cells := by
  have all := h.separated sep
  cases h with
  | nil => exact .text d (d.truth empty)
  | cons first rest =>
    cases rest with
    | nil => exact all
    | cons second rest => exact .cons all.closed

end Emit.SendsAll

namespace Filter

variable (d : Dialect)

theorem emitConstant_sends (c : Constant) : Sends d (c.emit d) [c.cell] :=
  .value d c.value c.type

theorem emitCompare_sends (e : Expr) (op : Comparison) (c : Constant) (nullAsDefault : Bool) :
    Sends d (emitCompare d e op c nullAsDefault) (if c.isNull then [] else [c.cell]) := by
  unfold emitCompare
  split
  · apply Sends.attempt
    intro lhs
    cases op with
    | eq | ne => exact .cons (.text d _)
    | lt | le | gt | ge => exact .text d (d.truth false)
  · apply Sends.attempt
    intro lhs
    have value := emitConstant_sends d c
    apply Sends.branch
    · intro _
      exact .cons (.cons (.cons (value.seq (.cons (.cons (.cons (.text d ")")))))))
    · intro _
      exact .cons (.cons value)

theorem emitBetween_sends (e : Expr) (low high : Constant) :
    Sends d (emitBetween d e low high) [low.cell, high.cell] := by
  have lowest := emitConstant_sends d low
  have highest := emitConstant_sends d high
  apply Sends.branch
  · intro _
    exact .refuse d _ _
  · intro _
    apply Sends.attempt
    intro lhs
    apply Sends.branch
    · intro _
      exact .cons (.cons (lowest.seq (.cons highest)))
    · intro _
      exact .cons (.cons (.cons (lowest.seq (.cons (.cons (.cons highest.closed))))))

theorem emitLike_sends (e : Expr) (pattern : String) :
    Sends d (emitLike d e pattern) [(.string pattern, .string)] := by
  apply Sends.attempt
  intro lhs
  exact .cons (.cons (Sends.value d _ _).closed)

theorem emitGroup_sends (lhs : String) (group : List Constant) :
    Sends d (emitGroup d lhs group) (group.map Constant.cell) := by
  have members := (SendsAll.map (emitConstant_sends d) group).separated ", "
  rw [← List.map_eq_flatMap] at members
  exact .cons (.cons (.cons members.closed))

/-- However a list is cut, its values are its entries in order. -/
theorem emitTerms_sends (lhs : String) (values : List Constant) :
    SendsAll d (emitTerms d lhs values)
      ((values.filter (!·.isNull)).map Constant.cell) := by
  have groups := SendsAll.map (emitGroup_sends d lhs)
    (inGroups d.features.maxInList (values.filter (!·.isNull)))
  have null : SendsAll d (if values.any (·.isNull) then [do text lhs; text " IS NULL"] else [])
      [] := by
    split
    · exact .one (.cons (.text d _))
    · exact .nil
  have all := groups.append null
  rw [List.append_nil, List.flatMap_def, ← List.map_flatten, flatten_inGroups] at all
  exact all

theorem emitOneOf_sends (e : Expr) (values : List Constant) :
    Sends d (emitOneOf d e values) ((values.filter (!·.isNull)).map Constant.cell) := by
  by_cases nothing : values = []
  · subst nothing
    exact .text d (d.truth false)
  · rw [emitOneOf_eq d e nothing]
    exact .attempt fun lhs => (emitTerms_sends d lhs values).junction " OR " false

end Filter

namespace QueryOf

variable {Condition : Type} (d : Dialect) (q : QueryOf Condition)

/-- The table, under its other name if it has one. -/
theorem emitSource_sends : Sends d (do
    text " FROM "
    text (← attempt (d.tableName q.table))
    match q.tableAlias with
    | none => pure ()
    | some name =>
      if !d.features.tableAlias then attempt (d.lacks .tableAlias)
      else
        text " AS "
        text (← attempt (d.identifier name))) [] := by
  apply Sends.cons
  apply Sends.attempt
  intro table
  apply Sends.cons
  cases q.tableAlias with
  | none => exact .nothing d
  | some name =>
    apply Sends.branch
    · intro _
      exact .refuse d _ _
    · intro _
      exact .cons (.attempt fun name => .text d name)

/-- Expressions, names and caps are text. -/
theorem emitHead_sends : Sends d (q.emitHead d) [] := by
  unfold emitHead
  have source := emitSource_sends d q
  apply Sends.cons
  apply Sends.optional
  apply Sends.optional
  apply Sends.branch
  · intro _
    exact .cons source
  · intro _
    exact .attempt fun columns => .cons source

theorem emitGroups_sends : Sends d (q.emitGroups d) [] := by
  unfold emitGroups
  apply Sends.branch
  · intro _
    exact .nothing d
  · intro _
    exact .attempt fun groups => .cons (.text d _)

theorem emitCap_sends (nested : Bool) : Sends d (if 0 < q.maxRows then
    match d.rowLimit with
    | .top => pure ()
    | .limit => text (" LIMIT " ++ Text.numeral q.maxRows)
    | .driver => if nested then attempt (d.lacks .subqueryRowLimit) else Emit.cap q.maxRows
  else pure ()) [] := by
  apply Sends.branch
  · intro _
    cases d.rowLimit with
    | top => exact .nothing d
    | limit => exact .text d _
    | driver => exact .branch (fun _ => .refuse d _ _) fun _ => .cap d q.maxRows
  · intro _
    exact .nothing d

theorem emitTail_sends (nested : Bool) : Sends d (q.emitTail d nested) [] := by
  have capped := emitCap_sends d q nested
  simp only [emitTail]
  split
  · exact capped
  · exact capped
  · exact .cons (.attempt fun order => .cons capped)

end QueryOf

mutual

theorem Filter.emit_sends (d : Dialect) : (f : Filter) → Sends d (f.emit d) (f.cells d)
  | .and parts => by
    rw [Filter.emit_and]
    exact (Filter.emitAll_sends d parts).junction " AND " true
  | .or parts => by
    rw [Filter.emit_or]
    exact (Filter.emitAll_sends d parts).junction " OR " false
  | .not part => .cons (.cons (part.emit_sends d).closed)
  | .compare e op c nullAsDefault => .enclosed (Filter.emitCompare_sends d e op c nullAsDefault)
  | .compareNull _ _ => .enclosed (.attempt fun lhs => .cons (.text d _))
  | .oneOf e values => .enclosed (Filter.emitOneOf_sends d e values)
  | .startsWith e start => .enclosed (Filter.emitLike_sends d e (d.escapeLike start ++ "%"))
  | .contains e needle =>
    .enclosed (Filter.emitLike_sends d e ("%" ++ d.escapeLike needle ++ "%"))
  | .inSubquery _ q =>
    .enclosed (.attempt fun _ => .attempt fun lhs =>
      .cons (.cons (Filter.emitQuery_sends d true q).closed))
  | .between e low high => .enclosed (Filter.emitBetween_sends d e low high)
  | .constant b => .enclosed (.text d (d.truth b))

theorem Filter.emitAll_sends (d : Dialect) :
    (parts : List Filter) → SendsAll d (parts.map (·.emit d)) (Filter.cellsOfAll d parts)
  | [] => .nil
  | f :: rest => .cons (f.emit_sends d) (Filter.emitAll_sends d rest)

theorem Filter.emitCondition_sends (d : Dialect) (keyword : String) :
    (f : Option Filter) →
      Sends d (Filter.emitCondition d keyword f) (Filter.cellsOfCondition d f)
  | none => .nothing d
  | some f => .cons (f.emit_sends d)

theorem Filter.emitQuery_sends (d : Dialect) (nested : Bool) :
    (q : QueryOf Filter) → Sends d (Filter.emitQuery d nested q) (Filter.cellsOfQuery d q)
  | ⟨table, tableAlias, columns, filter, groupBy, having, order, maxRows, distinct⟩ => by
    have filtered := Filter.emitCondition_sends d " WHERE " filter
    have restricted := Filter.emitCondition_sends d " HAVING " having
    exact (QueryOf.emitHead_sends d _).seq (filtered.seq ((QueryOf.emitGroups_sends d _).seq
      (restricted.trailed (QueryOf.emitTail_sends d _ nested))))

end

theorem Insert.emitRows_sends (d : Dialect) (columns : List Column) (index : Nat)
    (rows : List (List Value)) :
    Sends d (emitRows d columns index rows) (rows.flatMap (cellsOf columns)) := by
  induction rows generalizing index with
  | nil => exact .nothing d
  | cons row rest ih =>
    have cells := (SendsAll.map (fun cell : Value × Column => Sends.value d cell.1 cell.2.type)
      (row.zip columns)).separated ", "
    rw [← List.map_eq_flatMap, ← cellsOf_eq] at cells
    have rows := Sends.cons (s := if index = 0 then "(" else ", (")
      (cells.seq (.cons (s := ")") (ih (index + 1))))
    apply Sends.branch
    · intro _
      exact .attempt fun _ => rows
    · intro _
      exact rows

theorem Descriptor.emit_sends (d : Dialect) (x : Descriptor) :
    Sends d (x.emit d) (x.cells d) := by
  cases x with
  | select q => exact .branch (fun _ => Filter.emitQuery_sends d false q) fun _ => .refuse d _ _
  | filter f => exact f.emit_sends d
  | insert i =>
    exact .attempt fun _ => .cons (.attempt fun table => .cons (.attempt fun names =>
      .cons (Insert.emitRows_sends d i.columns 0 i.rows)))
  | update u =>
    have assignment (x : Column × Value) : Sends d (Update.emitAssignment d x) [(x.2, x.1.type)] :=
      .attempt fun name => .cons (.cons (.value d x.2 x.1.type))
    have assignments := (SendsAll.map assignment u.set).separated ", "
    rw [← List.map_eq_flatMap] at assignments
    have written : Sends d (do
        text "UPDATE "
        text (← attempt (d.tableName u.table))
        text " SET "
        separated ", " (u.set.map (Update.emitAssignment d))
        Filter.emitCondition d " WHERE " u.filter) (cells d (.update u)) :=
      .cons (.attempt fun table => .cons (.cons (assignments.seq
        (Filter.emitCondition_sends d " WHERE " u.filter))))
    exact .branch (fun _ => .attempt fun _ => written) fun _ => written
  | delete x =>
    exact .cons (.attempt fun table => .cons (Filter.emitCondition_sends d " WHERE " x.filter))

/-- The parameters of a statement that is compiled in bind mode are those of the values that it
writes and the dialect binds, in order. -/
theorem Descriptor.binds_of_compile {d : Dialect} {x : Descriptor} {s : Statement}
    (compiled : x.compile d .bind = .ok s) : d.BindsAs (x.cells d) s.params := by
  rw [compile_eq] at compiled
  obtain ⟨-, params, bound, added⟩ := x.emit_sends d _ _ rfl (writes_of_compile compiled)
  have empty : (Buffer.empty .bind).params.toList = [] := rfl
  rw [empty, List.nil_append] at added
  rw [Buffer.eq_of_finish (finish_of_compile compiled), added]
  exact bound

/-- The length of a buffer is that of its text. -/
theorem Buffer.length_eq (b : Buffer) : b.length = b.sql.utf8ByteSize := by
  have sum (segments : List Segment) (n : Nat) :
      segments.foldl (fun n segment => n + segment.content.utf8ByteSize) n =
        n + (sqlOf segments).utf8ByteSize := by
    induction segments generalizing n with
    | nil => simp [sqlOf_nil]
    | cons segment rest ih =>
      rw [List.foldl_cons, ih, sqlOf_cons, String.utf8ByteSize_append, Nat.add_assoc]
  rw [length, ← Array.foldl_toList, sum, sql, Nat.zero_add]

/-- A statement is not longer than the dialect allows. -/
theorem Buffer.size_le_of_finish {d : Dialect} {b : Buffer} {s : Statement}
    (finished : b.finish d = .ok s) (limited : 0 < d.features.maxStatementLength) :
    s.sql.utf8ByteSize ≤ d.features.maxStatementLength := by
  have same : s.sql = b.sql := by
    rw [eq_of_finish finished]
    rfl
  unfold finish at finished
  dsimp only at finished
  split at finished
  · cases finished
  · rename_i short
    rw [same, ← length_eq]
    omega

end SqlScribe

import SqlScribe.Proofs.Lexing.Steps

/-!
# Texts do not change the structure of a statement

Two filters that differ in nothing but the characters of their texts are inlined with the same
tokens, apart from what stands in texts. No text ends early, begins a token or runs into another.
-/

namespace SqlScribe

open Text Lexing Emit

/-- The query with its expressions redacted; conditions stay. -/
def QueryOf.redactedShape {Condition : Type} (q : QueryOf Condition) : QueryOf Condition :=
  { q with
    columns := ⟨q.columns.items.map NamedExpr.redacted⟩
    groupBy := q.groupBy.map Expr.redacted
    order := q.order.map (List.map OrderTerm.redacted) }

mutual

/-- The filter without the characters of its text constants, prefixes and needles. -/
def Filter.redacted : Filter → Filter
  | .compare e op c nullAsDefault => .compare e.redacted op c.redacted nullAsDefault
  | .compareNull e negated => .compareNull e.redacted negated
  | .oneOf e values => .oneOf e.redacted (values.map Constant.redacted)
  | .startsWith e _ => .startsWith e.redacted ""
  | .contains e _ => .contains e.redacted ""
  | .inSubquery e q => .inSubquery e.redacted (Filter.redactedQuery q)
  | .between e low high => .between e.redacted low.redacted high.redacted
  | .constant b => .constant b
  | .and parts => .and (Filter.redactedAll parts)
  | .or parts => .or (Filter.redactedAll parts)
  | .not part => .not part.redacted

def Filter.redactedAll : List Filter → List Filter
  | [] => []
  | f :: rest => f.redacted :: Filter.redactedAll rest

def Filter.redactedCondition : Option Filter → Option Filter
  | none => none
  | some f => some f.redacted

/-- The query without the characters of its texts. -/
def Filter.redactedQuery : QueryOf Filter → QueryOf Filter
  | ⟨table, tableAlias, columns, filter, groupBy, having, order, maxRows, distinct⟩ =>
    ⟨table, tableAlias, ⟨columns.items.map NamedExpr.redacted⟩, Filter.redactedCondition filter,
      groupBy.map Expr.redacted, Filter.redactedCondition having,
      order.map (List.map OrderTerm.redacted), maxRows, distinct⟩

end

variable {marks : Option NameMarks} {d : Dialect}

theorem Constant.emit_parallel (h : d.Closes marks) (c : Constant) :
    Parallel marks .clear .any (c.emit d) (c.redacted.emit d) :=
  .value (c.literal_redacted h)

namespace Filter

theorem enclosed_parallel (h : d.Closes marks) {body body' : Emit Unit}
    (inner : Parallel marks .clear .any body body') :
    Parallel marks .clear .any (enclosed d body) (enclosed d body') := by
  apply Parallel.branch
  · intro _
    exact .glue h.proper rfl (inner.seq (.last h.proper ")" rfl))
  · intro _
    exact inner

theorem compareNull_parallel (h : d.Closes marks) (e : Expr) (negated : Bool) :
    Parallel marks .clear .any
      (do
        text (← attempt (e.render d))
        text (if negated then " IS NOT NULL" else " IS NULL"))
      (do
        text (← attempt (e.redacted.render d))
        text (if negated then " IS NOT NULL" else " IS NULL")) := by
  apply Parallel.attempt (e.render_redacted h)
  intro lhs lhs' related
  apply Parallel.operand related
  cases negated with
  | false => exact .last h.proper " IS NULL" rfl
  | true => exact .last h.proper " IS NOT NULL" rfl

theorem emitCompare_parallel (h : d.Closes marks) (e : Expr) (op : Comparison) (c : Constant)
    (nullAsDefault : Bool) :
    Parallel marks .clear .any (emitCompare d e op c nullAsDefault)
      (emitCompare d e.redacted op c.redacted nullAsDefault) := by
  have proper := h.proper
  have value := c.emit_parallel h
  have side : SameOutcome (Operand marks)
      (if nullAsDefault then e.renderOrDefault d c.type else e.render d)
      (if nullAsDefault then e.redacted.renderOrDefault d c.type else e.redacted.render d) := by
    cases nullAsDefault with
    | false => exact e.render_redacted h
    | true => exact e.renderOrDefault_redacted h c.type
  have compared : isGlue (" " ++ op.sql ++ " ") = true := by cases op <;> rfl
  unfold emitCompare
  rw [c.isNull_redacted, c.type_redacted]
  apply Parallel.branch
  · intro _
    apply Parallel.attempt (e.render_redacted h)
    intro lhs lhs' related
    cases op with
    | eq => exact .operand related (.last proper " IS NULL" rfl)
    | ne => exact .operand related (.last proper " IS NOT NULL" rfl)
    | lt | le | gt | ge => exact .text (h.calls.truth false)
  · intro _
    apply Parallel.attempt side
    intro lhs lhs' related
    apply Parallel.branch
    · intro _
      exact .glue proper rfl (.operand related (.glue proper rfl (value.seq (.glue proper rfl
        (.operand related (.glue proper rfl (.last proper ")" rfl)))))))
    · intro _
      exact .operand related (.glue proper compared value)

theorem emitBetween_parallel (h : d.Closes marks) (e : Expr) (low high : Constant) :
    Parallel marks .clear .any (emitBetween d e low high)
      (emitBetween d e.redacted low.redacted high.redacted) := by
  have proper := h.proper
  have lowest := low.emit_parallel h
  have highest := high.emit_parallel h
  unfold emitBetween
  rw [low.isNull_redacted, high.isNull_redacted]
  apply Parallel.branch
  · intro _
    exact .refuse _
  · intro _
    apply Parallel.attempt (e.render_redacted h)
    intro lhs lhs' related
    apply Parallel.branch (c := d.features.between = true)
    · intro _
      exact .operand related (.glue proper rfl (lowest.seq (.glue proper rfl highest)))
    · intro _
      exact .glue proper rfl (.operand related (.glue proper rfl (lowest.seq (.glue proper rfl
        (.operand related (.glue proper rfl (highest.seq (.last proper ")" rfl))))))))

theorem emitLike_parallel (h : d.Closes marks) (e : Expr) (pattern pattern' : String) :
    Parallel marks .clear .any (emitLike d e pattern) (emitLike d e.redacted pattern') := by
  have literals : SameOutcome (Operand marks) (d.literal (.string pattern) .string)
      (d.literal (.string pattern') .string) := by
    rw [d.literal_string (.inl rfl), d.literal_string (.inl rfl)]
    exact .ok (h.literals.text pattern pattern')
  apply Parallel.attempt (e.render_redacted h)
  intro lhs lhs' related
  exact .operand related (.glue h.proper rfl ((Parallel.value literals).seq
    (.text h.calls.likeEscapeClause)))

theorem emitGroup_parallel (h : d.Closes marks) {lhs lhs' : String}
    (related : Operand marks lhs lhs') (group : List Constant) :
    Parallel marks .clear .any (emitGroup d lhs group)
      (emitGroup d lhs' (group.map Constant.redacted)) := by
  have proper := h.proper
  have members : List.Forall₂ (Parallel marks .clear .any) (group.map (·.emit d))
      ((group.map Constant.redacted).map (·.emit d)) := by
    rw [List.map_map, List.forall₂_map_left_iff, List.forall₂_map_right_iff, List.forall₂_same]
    exact fun c _ => c.emit_parallel h
  exact .operand related (.glue proper rfl (.glue proper rfl
    ((Parallel.separated proper ", " rfl members).seq (.last proper ")" rfl))))

theorem emitTerms_parallel (h : d.Closes marks) {lhs lhs' : String}
    (related : Operand marks lhs lhs') (values : List Constant) :
    List.Forall₂ (Parallel marks .clear .any) (emitTerms d lhs values)
      (emitTerms d lhs' (values.map Constant.redacted)) := by
  have known : (values.map Constant.redacted).filter (!·.isNull) =
      (values.filter (!·.isNull)).map Constant.redacted := by
    simp only [List.filter_map, Function.comp_def, Constant.isNull_redacted]
  have nulls : (values.map Constant.redacted).any (·.isNull) = values.any (·.isNull) := by
    simp only [List.any_map, Function.comp_def, Constant.isNull_redacted]
  unfold emitTerms
  rw [known, nulls, inGroups_map]
  apply List.rel_append
  · rw [List.map_map, List.forall₂_map_left_iff, List.forall₂_map_right_iff, List.forall₂_same]
    exact fun group _ => emitGroup_parallel h related group
  · cases values.any (·.isNull) with
    | false => exact .nil
    | true => exact .cons (.operand related (.last h.proper " IS NULL" rfl)) .nil

theorem emitOneOf_parallel (h : d.Closes marks) (e : Expr) (values : List Constant) :
    Parallel marks .clear .any (emitOneOf d e values)
      (emitOneOf d e.redacted (values.map Constant.redacted)) := by
  by_cases nothing : values = []
  · subst nothing
    exact .text (h.calls.truth false)
  · have something : values.map Constant.redacted ≠ [] := by simpa using nothing
    rw [emitOneOf_eq d e nothing, emitOneOf_eq d e.redacted something]
    apply Parallel.attempt (e.render_redacted h)
    intro lhs lhs' related
    exact .junction h " OR " false rfl (emitTerms_parallel h related values)

end Filter

namespace QueryOf

variable {Condition : Type}

/-- What stands behind `FROM`. -/
theorem emitSource_parallel (h : d.Closes marks) (q : QueryOf Condition) (e : Edge) :
    Parallel marks e .any
      (do
        text " FROM "
        text (← attempt (d.tableName q.table))
        match q.tableAlias with
        | none => pure ()
        | some name =>
          if !d.features.tableAlias then attempt (d.lacks .tableAlias)
          else
            text " AS "
            text (← attempt (d.identifier name)))
      (do
        text " FROM "
        text (← attempt (d.tableName q.table))
        match q.tableAlias with
        | none => pure ()
        | some name =>
          if !d.features.tableAlias then attempt (d.lacks .tableAlias)
          else
            text " AS "
            text (← attempt (d.identifier name))) := by
  have table : SameOutcome (Operand marks) (d.tableName q.table) (d.tableName q.table) :=
    .same fun _ => h.tableName
  apply Parallel.glue h.proper rfl
  apply Parallel.attempt table
  intro name name' related
  apply Parallel.operand related
  cases q.tableAlias with
  | none => exact .nothing .any
  | some byname =>
    have identifier : SameOutcome (Operand marks) (d.identifier byname) (d.identifier byname) :=
      .same fun _ => h.names.identifier
    apply Parallel.branch
    · intro _
      exact .refuse _
    · intro _
      exact .glue h.proper rfl (.attempt identifier fun _ _ related => .text related)

theorem emitHead_parallel (h : d.Closes marks) (q : QueryOf Condition) :
    Parallel marks .clear .any (q.emitHead d) (q.redactedShape.emitHead d) := by
  have proper := h.proper
  have source := emitSource_parallel h q .any
  have columns : SameOutcome (List.Forall₂ (Operand marks)) (q.columns.items.mapM (·.render d))
      ((q.columns.items.map NamedExpr.redacted).mapM (·.render d)) := by
    apply SameOutcome.mapM
    rw [List.forall₂_map_right_iff, List.forall₂_same]
    exact fun n _ => n.render_redacted h
  have top : isGlue ("TOP " ++ numeral q.maxRows ++ " ") = true :=
    isGlue_append (isGlue_append rfl (isCode_numeral q.maxRows)) (isCode_of_isCodeText rfl)
  have empty : q.redactedShape.columns.isEmpty = q.columns.isEmpty := List.isEmpty_map
  unfold emitHead
  rw [empty]
  apply Parallel.glue proper rfl
  apply Parallel.optional proper rfl
  apply Parallel.optional proper top
  apply Parallel.branch
  · intro _
    exact .operand (Operand.word proper "*" rfl) source
  · intro _
    apply Parallel.attempt columns
    intro texts texts' related
    exact .operand (Operand.join proper ", " rfl related) source

theorem emitGroups_parallel (h : d.Closes marks) (q : QueryOf Condition) :
    Parallel marks .any .any (q.emitGroups d) (q.redactedShape.emitGroups d) := by
  have groups : SameOutcome (List.Forall₂ (Operand marks)) (q.groupBy.mapM (·.render d))
      ((q.groupBy.map Expr.redacted).mapM (·.render d)) := by
    apply SameOutcome.mapM
    rw [List.forall₂_map_right_iff, List.forall₂_same]
    exact fun e _ => e.render_redacted h
  have empty : q.redactedShape.groupBy.isEmpty = q.groupBy.isEmpty := List.isEmpty_map
  unfold emitGroups
  rw [empty]
  apply Parallel.branch
  · intro _
    exact .nothing .any
  · intro _
    apply Parallel.attempt groups
    intro texts texts' related
    exact .glue h.proper rfl (.text (Operand.join h.proper ", " rfl related))

/-- The cap of rows, where a dialect writes it last. -/
theorem emitCap_parallel (proper : Proper marks) (q : QueryOf Condition) (nested : Bool) :
    Parallel marks .any .any
      (if 0 < q.maxRows then
        match d.rowLimit with
        | .top => pure ()
        | .limit => text (" LIMIT " ++ numeral q.maxRows)
        | .driver => if nested then attempt (d.lacks .subqueryRowLimit) else Emit.cap q.maxRows
      else pure ())
      (if 0 < q.maxRows then
        match d.rowLimit with
        | .top => pure ()
        | .limit => text (" LIMIT " ++ numeral q.maxRows)
        | .driver => if nested then attempt (d.lacks .subqueryRowLimit) else Emit.cap q.maxRows
      else pure ()) := by
  have limit : isGlue (" LIMIT " ++ numeral q.maxRows) = true :=
    isGlue_append rfl (isCode_numeral q.maxRows)
  apply Parallel.branch
  · intro _
    cases d.rowLimit with
    | top => exact .nothing .any
    | limit => exact .last proper _ limit
    | driver => exact .branch (fun _ => .refuse _) fun _ => .cap .any q.maxRows
  · intro _
    exact .nothing .any

theorem emitTail_parallel (h : d.Closes marks) (nested : Bool) (q : QueryOf Condition) :
    Parallel marks .any .any (q.emitTail d nested) (q.redactedShape.emitTail d nested) := by
  have capped := emitCap_parallel (d := d) h.proper q nested
  obtain ⟨table, tableAlias, columns, filter, groupBy, having, order, maxRows, distinct⟩ := q
  match order with
  | none | some [] => exact capped
  | some (first :: rest) =>
    have ordered := Order.render_redacted h (first :: rest)
    exact .glue h.proper rfl (.attempt ordered fun _ _ related =>
      (Parallel.text related).seq capped)

end QueryOf

theorem Filter.checkSubquery_redacted (d : Dialect) (q : Select) :
    Filter.checkSubquery d (Filter.redactedQuery q) = Filter.checkSubquery d q := by
  obtain ⟨table, tableAlias, columns, filter, groupBy, having, order, maxRows, distinct⟩ := q
  simp only [Filter.checkSubquery, Filter.redactedQuery, List.length_map]

mutual

theorem Filter.emit_parallel (h : d.Closes marks) :
    (f : Filter) → Parallel marks .clear .any (f.emit d) (f.redacted.emit d)
  | .and parts => by
    rw [Filter.redacted, Filter.emit_and, Filter.emit_and]
    exact .junction h " AND " true rfl (Filter.emitAll_parallel h parts)
  | .or parts => by
    rw [Filter.redacted, Filter.emit_or, Filter.emit_or]
    exact .junction h " OR " false rfl (Filter.emitAll_parallel h parts)
  | .not part =>
    .glue h.proper rfl (.glue h.proper rfl ((part.emit_parallel h).seq (.last h.proper ")" rfl)))
  | .compare e op c nullAsDefault =>
    Filter.enclosed_parallel h (Filter.emitCompare_parallel h e op c nullAsDefault)
  | .compareNull e negated => Filter.enclosed_parallel h (Filter.compareNull_parallel h e negated)
  | .oneOf e values => Filter.enclosed_parallel h (Filter.emitOneOf_parallel h e values)
  | .startsWith e _ => Filter.enclosed_parallel h (Filter.emitLike_parallel h e _ _)
  | .contains e _ => Filter.enclosed_parallel h (Filter.emitLike_parallel h e _ _)
  | .inSubquery e q => by
    have query := Filter.emitQuery_parallel h true q
    have checked : SameOutcome Eq (Filter.checkSubquery d q)
        (Filter.checkSubquery d (Filter.redactedQuery q)) := by
      rw [Filter.checkSubquery_redacted]
      exact .same fun _ _ => rfl
    apply Filter.enclosed_parallel h
    exact .attempt checked fun _ _ _ => .attempt (e.render_redacted h) fun _ _ related =>
      .operand related (.glue h.proper rfl (query.seq (.last h.proper ")" rfl)))
  | .between e low high => Filter.enclosed_parallel h (Filter.emitBetween_parallel h e low high)
  | .constant b => Filter.enclosed_parallel h (.text (h.calls.truth b))

theorem Filter.emitAll_parallel (h : d.Closes marks) :
    (parts : List Filter) → List.Forall₂ (Parallel marks .clear .any) (parts.map (·.emit d))
      ((Filter.redactedAll parts).map (·.emit d))
  | [] => .nil
  | f :: rest => .cons (f.emit_parallel h) (Filter.emitAll_parallel h rest)

theorem Filter.emitCondition_parallel (h : d.Closes marks) (keyword : String)
    (glue : isGlue keyword = true) :
    (f : Option Filter) → Parallel marks .any .any (Filter.emitCondition d keyword f)
      (Filter.emitCondition d keyword (Filter.redactedCondition f))
  | none => .nothing .any
  | some f => .glue h.proper glue (f.emit_parallel h)

theorem Filter.emitQuery_parallel (h : d.Closes marks) (nested : Bool) :
    (q : QueryOf Filter) → Parallel marks .clear .any (Filter.emitQuery d nested q)
      (Filter.emitQuery d nested (Filter.redactedQuery q))
  | ⟨table, tableAlias, columns, filter, groupBy, having, order, maxRows, distinct⟩ => by
    have filtered := Filter.emitCondition_parallel h " WHERE " rfl filter
    have restricted := Filter.emitCondition_parallel h " HAVING " rfl having
    simp only [Filter.emitQuery, Filter.redactedQuery]
    exact (QueryOf.emitHead_parallel h _).seq (filtered.seq ((QueryOf.emitGroups_parallel h _).seq
      (restricted.seq (QueryOf.emitTail_parallel h nested _))))

end

/-- A statement is refused for nothing but its length. -/
theorem Buffer.finish_eq_error {b : Buffer} {fault : Fault} (refused : b.finish d = .error fault) :
    0 < d.features.maxStatementLength ∧
      fault = .statementTooLong b.length d.features.maxStatementLength := by
  unfold Buffer.finish at refused
  by_cases long : 0 < d.features.maxStatementLength ∧ d.features.maxStatementLength < b.length
  · rw [if_pos long] at refused
    exact ⟨long.1, (Except.error.inj refused).symm⟩
  · rw [if_neg long] at refused
    cases refused

theorem Buffer.exists_finish (unlimited : d.features.maxStatementLength = 0) (b : Buffer) :
    ∃ s, b.finish d = .ok s := by
  cases finished : b.finish d with
  | ok s => exact ⟨s, rfl⟩
  | error fault =>
    have limited := (Buffer.finish_eq_error finished).1
    omega

/-- In every built-in dialect two filters that differ in nothing but the characters of their texts
are refused for the same fault when they are inlined, or both are written, apart from their length.
Then they have the same tokens in the same order, none of which is torn, and differ in nothing but
what stands in texts. -/
theorem Builtin.inline_structure (b : Builtin) {f g : Filter} (same : f.redacted = g.redacted) :
    (∀ fault, (∀ length limit, fault ≠ .statementTooLong length limit) →
      (f.compile b.dialect .inline = .error fault ↔ g.compile b.dialect .inline = .error fault)) ∧
    (b.dialect.features.maxStatementLength = 0 →
      ((∃ s, f.compile b.dialect .inline = .ok s) ↔ ∃ t, g.compile b.dialect .inline = .ok t)) ∧
    ∀ s t, f.compile b.dialect .inline = .ok s → g.compile b.dialect .inline = .ok t →
      List.Forall₂ Token.Agree (tokens b.nameMarks s.sql) (tokens b.nameMarks t.sql) := by
  have left := f.emit_parallel b.closes
  have right := g.emit_parallel b.closes
  rw [← same] at right
  obtain ⟨fault, refused, refused'⟩ | ⟨m, m', written, written', tokens⟩ :=
    Parallel.compile (d := b.dialect) left right
  · have refused : f.compile b.dialect .inline = .error fault := refused
    have refused' : g.compile b.dialect .inline = .error fault := refused'
    rw [refused, refused']
    refine ⟨fun _ _ => Iff.rfl, fun _ => ?_, fun s _ compiled => nomatch compiled⟩
    simp
  · have written : f.compile b.dialect .inline = m.finish b.dialect := written
    have written' : g.compile b.dialect .inline = m'.finish b.dialect := written'
    rw [written, written']
    refine ⟨fun fault other => ?_, fun unlimited => ?_, fun s t compiled compiled' => ?_⟩
    · constructor
      · intro refused
        exact absurd (Buffer.finish_eq_error refused).2 (other _ _)
      · intro refused
        exact absurd (Buffer.finish_eq_error refused).2 (other _ _)
    · have both := Buffer.exists_finish unlimited m
      have both' := Buffer.exists_finish unlimited m'
      exact ⟨fun _ => both', fun _ => both⟩
    · rw [Buffer.eq_of_finish compiled, Buffer.eq_of_finish compiled']
      exact tokens

/-- A comparison, a prefix and an expression with texts. -/
def worded (name start suffix : String) : Filter :=
  .and [
    .compare (.column ⟨["Name"]⟩) .ne ⟨.string name, .string⟩ false,
    .startsWith
      (.function .concat [.column ⟨["Title"]⟩, .constant ⟨.string suffix, .string⟩]) start]

/-- Texts that would end their literals, hide what follows or match anything if they were written as
they are. -/
def hostile : Filter := worded "' OR 1=1 --" "%[_]''\\" "'"

def hostileStatement : Statement where
  segments := [.text "(", .text "(", .text "[Name]", .text " <> ", .text "N''' OR 1=1 --'",
    .text " OR ", .text "[Name]", .text " IS NULL", .text ")", .text " AND ",
    .text "([Title] + N'''')", .text " LIKE ", .text "N'[%][[][_]]''''\\%'", .text "", .text ")"]
  params := []
  maxRows := none

/-- Beside plain texts the hostile ones change nothing but what stands in texts. -/
theorem Builtin.inline_structure_hostile :
    ∃ s, (worded "a" "b" "c").compile Builtin.mssql.dialect .inline = .ok s ∧
      hostile.compile Builtin.mssql.dialect .inline = .ok hostileStatement ∧
      List.Forall₂ Token.Agree (tokens Builtin.mssql.nameMarks s.sql)
        (tokens Builtin.mssql.nameMarks hostileStatement.sql) := by
  have written : hostile.compile Builtin.mssql.dialect .inline = .ok hostileStatement := by
    decide +kernel
  obtain ⟨-, both, agree⟩ := inline_structure .mssql (f := worded "a" "b" "c") (g := hostile) rfl
  obtain ⟨s, plain⟩ := (both rfl).mpr ⟨hostileStatement, written⟩
  exact ⟨s, plain, written, agree s hostileStatement plain written⟩

end SqlScribe

import SqlScribe.Proofs.Query.Subqueries
import SqlScribe.Proofs.Statement.Outline

/-!
# Caps of rows in statements

A cap belongs to its query. The statement has a cap for the reader of the result only if that of the
outermost query is left to the reader, and a cap that a nested query would have to leave to the
reader is refused.
-/

namespace SqlScribe

open Text Emit

/-- Where it succeeds, the step leaves the cap of the statement as it was, and something holds. -/
def Emit.Uncapped (step : Emit Unit) (P : Prop) : Prop :=
  ∀ b b', Writes step b b' → b'.maxRows = b.maxRows ∧ P

namespace Emit.Uncapped

variable {d : Dialect} {α : Type} {P Q : Prop} {step next : Emit Unit}

theorem nothing : Uncapped (pure ()) True := by
  rintro b b' ⟨⟩
  exact ⟨rfl, trivial⟩

theorem text (s : String) : Uncapped (Emit.text s) True := by
  rintro b b' ⟨⟩
  exact ⟨rfl, trivial⟩

theorem value (d : Dialect) (v : Value) (type : ColumnType) :
    Uncapped (Emit.value d v type) True := by
  intro b b' written
  obtain ⟨p, piece, rfl⟩ := writes_value.mp written
  obtain ⟨s, -, rfl⟩ | ⟨w, -, rfl⟩ := Dialect.valuePiece_ok piece
  · exact ⟨rfl, trivial⟩
  · exact ⟨rfl, trivial⟩

theorem seq (first : Uncapped step P) (then_next : Uncapped next Q) :
    Uncapped (do step; next) (P ∧ Q) := by
  intro b b' written
  obtain ⟨m, earlier, later⟩ := (writes_seq step next b b').mp written
  obtain ⟨same, holds⟩ := first b m earlier
  obtain ⟨same', holds'⟩ := then_next m b' later
  exact ⟨same'.trans same, holds, holds'⟩

theorem mono (h : Uncapped step P) (weaker : P → Q) : Uncapped step Q := by
  intro b b' written
  obtain ⟨same, holds⟩ := h b b' written
  exact ⟨same, weaker holds⟩

/-- Nothing is known of the first step but that it leaves the cap alone. -/
theorem behind (first : Uncapped step True) (then_next : Uncapped next Q) :
    Uncapped (do step; next) Q := (first.seq then_next).mono And.right

/-- A text in front. -/
theorem cons {s : String} (then_next : Uncapped next Q) :
    Uncapped (do Emit.text s; next) Q := behind (text s) then_next

/-- A text behind. -/
theorem closed {s : String} (first : Uncapped step P) :
    Uncapped (do step; Emit.text s) P := (first.seq (text s)).mono And.left

theorem attempt {r : Except Fault α} {next : α → Emit Unit} (h : ∀ a, Uncapped (next a) Q) :
    Uncapped (Emit.attempt r >>= next) Q := by
  intro b b' written
  obtain ⟨a, -, later⟩ := writes_attempt.mp written
  exact h a b b' later

theorem refuse (fault : Fault) : Uncapped (Emit.attempt (.error fault)) P := by
  rintro b b' ⟨⟩

theorem branch {c : Prop} [Decidable c] {yes no : Emit Unit} (h : Uncapped yes P)
    (h' : Uncapped no P) : Uncapped (if c then yes else no) P := by
  by_cases holds : c
  · rw [if_pos holds]
    exact h
  · rw [if_neg holds]
    exact h'

theorem enclosed (h : Uncapped step P) : Uncapped (Emit.enclosed d step) P :=
  branch (cons h.closed) h

/-- Steps of which each leaves the cap alone. -/
theorem each {sep : String} {steps : List (Emit Unit)} (h : ∀ s ∈ steps, Uncapped s True) :
    Uncapped (separated sep steps) True := by
  induction steps with
  | nil => exact nothing
  | cons first rest ih =>
    have inner := ih fun s member => h s (List.mem_cons_of_mem _ member)
    cases rest with
    | nil => exact h first List.mem_cons_self
    | cons _ _ => exact behind (h first List.mem_cons_self) (cons inner)

theorem junction (d : Dialect) {sep : String} (empty : Bool) {steps : List (Emit Unit)}
    (h : Uncapped (separated sep steps) P) (nothing : steps = [] → P) :
    Uncapped (Emit.junction d sep empty steps) P := by
  match steps with
  | [] => exact (text _).mono fun _ => nothing rfl
  | [_] => exact h
  | _ :: _ :: _ => exact cons h.closed

end Emit.Uncapped

/-- Where caps are left to the reader of the result, none of the queries has one, nor any query in
them. -/
def Dialect.NoneCapped (d : Dialect) (queries : List Select) : Prop :=
  d.rowLimit = .driver → ∀ q ∈ queries, ∀ r : Select, r.Within q → r.maxRows = 0

namespace Dialect.NoneCapped

variable {d : Dialect}

theorem nil (d : Dialect) : d.NoneCapped [] := fun _ q member => by cases member

theorem append {qs rs : List Select} (h : d.NoneCapped qs) (h' : d.NoneCapped rs) :
    d.NoneCapped (qs ++ rs) := by
  intro driver q member
  obtain before | behind := List.mem_append.mp member
  · exact h driver q before
  · exact h' driver q behind

/-- A query without a cap, none of whose own queries is capped. -/
theorem one {q : Select} (uncapped : d.rowLimit = .driver → q.maxRows = 0)
    (inner : d.NoneCapped q.subqueries) : d.NoneCapped [q] := by
  intro driver r member s within
  obtain rfl := List.mem_singleton.mp member
  cases within with
  | self => exact uncapped driver
  | deeper inside deep => exact inner driver _ inside s deep

end Dialect.NoneCapped

namespace QueryOf

variable {Condition : Type} (d : Dialect) (q : QueryOf Condition)

theorem emitSelection_uncapped : Uncapped (q.emitSelection d) True := by
  unfold emitSelection
  -- Whether all columns are asked for or some, the table stands behind them.
  refine .branch (.cons ?table) (.attempt fun columns => .cons ?table)
  case table =>
    apply Uncapped.cons
    apply Uncapped.attempt
    intro table
    apply Uncapped.cons
    cases q.tableAlias with
    | none => exact .nothing
    | some name =>
      apply Uncapped.branch
      · exact .refuse _
      · exact .cons (.attempt fun name => .text name)

theorem emitGroups_uncapped : Uncapped (q.emitGroups d) True := by
  unfold emitGroups
  apply Uncapped.branch
  · exact .nothing
  · exact .attempt fun groups => .cons (.text _)

theorem emitOrder_uncapped : Uncapped (q.emitOrder d) True := by
  unfold emitOrder
  split
  · exact .nothing
  · exact .nothing
  · exact .cons (.attempt fun order => .text order)

/-- What stands in front of the result columns is text. -/
theorem emitHead_uncapped : Uncapped (q.emitHead d) True := by
  have front : Uncapped (Instruction.emitAll d (.text "SELECT " ::
      ((if q.distinct then [.text "DISTINCT "] else []) ++ d.capInFront q.maxRows))) True := by
    unfold Dialect.capInFront
    split <;> split <;> simp only [List.append_nil, List.nil_append, List.cons_append,
      Instruction.emitAll, Instruction.emit]
    · exact .cons (.cons (.cons .nothing))
    · exact .cons (.cons .nothing)
    · exact .cons (.cons .nothing)
    · exact .cons .nothing
  rw [emitHead_eq]
  exact (front.seq (q.emitSelection_uncapped d)).mono fun _ => trivial

/-- The cap at the end of a query: a statement takes it over from its outermost query, if it is left
to the reader of the result, and a nested query has none to leave. -/
theorem writes_capBehind {nested : Bool} {rows : Nat} {b b' : Buffer}
    (written : Writes (Instruction.emitAll d (d.capBehind nested rows)) b b') :
    (d.rowLimit = .driver → nested = true → rows = 0) ∧
      b'.maxRows = if d.rowLimit = .driver ∧ 0 < rows then some rows else b.maxRows := by
  obtain ⟨ps, added, rfl⟩ := (writes_emitAll d).mp written
  unfold Dialect.capBehind at added
  by_cases capped : 0 < rows
  · rw [if_pos capped] at added
    cases limit : d.rowLimit with
    | top =>
      rw [limit] at added
      cases added
      simp [Buffer.addAll]
    | limit =>
      rw [limit] at added
      obtain ⟨_, _, ⟨⟩, nothing, rfl⟩ := List.forall₂_cons_left_iff.mp added
      cases nothing
      simp [Buffer.addAll, Buffer.add]
    | driver =>
      rw [limit] at added
      cases nested with
      | true =>
        obtain ⟨_, _, ⟨⟩, -, -⟩ := List.forall₂_cons_left_iff.mp added
      | false =>
        obtain ⟨_, _, ⟨⟩, nothing, rfl⟩ := List.forall₂_cons_left_iff.mp added
        cases nothing
        simp [Buffer.addAll, Buffer.add, capped]
  · rw [if_neg capped] at added
    cases added
    have none : rows = 0 := by omega
    simp [Buffer.addAll, none]

end QueryOf

namespace Filter

variable (d : Dialect) (e : Expr)

theorem emitCompare_uncapped (op : Comparison) (c : Constant) (nullAsDefault : Bool) :
    Uncapped (emitCompare d e op c nullAsDefault) True := by
  unfold emitCompare
  refine .branch (.attempt fun lhs => ?null) (.attempt fun lhs => .branch ?different ?plain)
  case null =>
    cases op with
    | eq | ne => exact .cons (.text _)
    | _ => exact .text _
  case different =>
    have alternative : Uncapped (do
        Emit.text " OR "
        Emit.text lhs
        Emit.text " IS NULL"
        Emit.text ")") True := .cons (.cons (.cons (.text _)))
    exact .cons (.cons (.cons (.behind (.value d _ _) alternative)))
  case plain => exact .cons (.cons (.value d _ _))

theorem emitGroup_uncapped (lhs : String) (group : List Constant) :
    Uncapped (emitGroup d lhs group) True := by
  have members : Uncapped (separated ", " (group.map (·.emit d))) True := by
    apply Uncapped.each
    intro step member
    obtain ⟨c, -, rfl⟩ := List.mem_map.mp member
    exact .value d _ _
  exact .cons (.cons (.cons members.closed))

theorem emitOneOf_uncapped (values : List Constant) : Uncapped (emitOneOf d e values) True := by
  unfold emitOneOf
  refine .branch (.text _) (.attempt fun lhs => ?_)
  have terms : Uncapped (separated " OR "
      ((inGroups d.features.maxInList (values.filter (!·.isNull))).map (emitGroup d lhs) ++
        if values.any (·.isNull) then [do Emit.text lhs; Emit.text " IS NULL"] else [])) True := by
    apply Uncapped.each
    intro step member
    obtain grouped | null := List.mem_append.mp member
    · obtain ⟨group, -, rfl⟩ := List.mem_map.mp grouped
      exact emitGroup_uncapped d lhs group
    · split at null
      · rw [List.mem_singleton.mp null]
        exact .cons (.text _)
      · cases null
  have closing {c : Prop} [Decidable c] {step : Emit Unit} (inner : Uncapped step True) :
      Uncapped (do step; if c then Emit.text ")" else pure ()) True :=
    .behind inner (.branch (.text _) .nothing)
  exact .branch (.cons (closing terms)) (closing terms)

theorem emitBetween_uncapped (low high : Constant) :
    Uncapped (emitBetween d e low high) True := by
  unfold emitBetween
  refine .branch (.refuse _) (.attempt fun lhs => .branch ?whole ?split)
  case whole => exact .cons (.cons (.behind (.value d _ _) (.cons (.value d _ _))))
  case split =>
    have upper : Uncapped (do
        Emit.text " AND "
        Emit.text lhs
        Emit.text " <= "
        high.emit d
        Emit.text ")") True := .cons (.cons (.cons (.closed (.value d _ _))))
    exact .cons (.cons (.cons (.behind (.value d _ _) upper)))

theorem emitLike_uncapped (pattern : String) : Uncapped (emitLike d e pattern) True :=
  .attempt fun _ => .cons (.cons (.closed (.value d _ _)))

end Filter

/-- A leaf without a subquery has nothing to say about caps. -/
theorem Emit.Uncapped.leaf {d : Dialect} {body : Emit Unit} (h : Uncapped body True) :
    Uncapped (Emit.enclosed d body) (d.NoneCapped []) := h.enclosed.mono fun _ => .nil d

mutual

/-- A filter leaves the cap of the statement as it was, and is not written if a query in it has a
cap that is left to the reader of a result. -/
theorem Filter.emit_uncapped (d : Dialect) :
    (f : Filter) → Uncapped (f.emit d) (d.NoneCapped f.subqueries)
  | .and parts => by
    rw [Filter.emit_and, Filter.subqueries]
    refine .junction d true (Filter.separated_uncapped d " AND " parts) fun nothing => ?_
    rw [List.map_eq_nil_iff.mp nothing]
    exact .nil d
  | .or parts => by
    rw [Filter.emit_or, Filter.subqueries]
    refine .junction d false (Filter.separated_uncapped d " OR " parts) fun nothing => ?_
    rw [List.map_eq_nil_iff.mp nothing]
    exact .nil d
  | .not part => .cons (.cons (part.emit_uncapped d).closed)
  | .inSubquery e q => by
    have query : Uncapped (Filter.emitQuery d true q) (d.NoneCapped [q]) := by
      intro b b' written
      obtain ⟨capped, kept, inner⟩ := Filter.writes_emitQuery d true q b b' written
      have none (driver : d.rowLimit = .driver) : q.maxRows = 0 := capped driver rfl
      refine ⟨?_, .one none inner⟩
      rw [kept, if_neg]
      rintro ⟨driver, some⟩
      rw [none driver] at some
      cases some
    exact .enclosed (.attempt fun _ => .attempt fun lhs => .cons (.cons query.closed))
  | .compare e op c nullAsDefault => .leaf (Filter.emitCompare_uncapped d e op c nullAsDefault)
  | .compareNull e negated => .leaf (.attempt fun _ => .cons (.text _))
  | .oneOf e values => .leaf (Filter.emitOneOf_uncapped d e values)
  | .startsWith e start => .leaf (Filter.emitLike_uncapped d e _)
  | .contains e needle => .leaf (Filter.emitLike_uncapped d e _)
  | .between e low high => .leaf (Filter.emitBetween_uncapped d e low high)
  | .constant b => .leaf (.text _)

theorem Filter.separated_uncapped (d : Dialect) (sep : String) :
    (fs : List Filter) →
      Uncapped (separated sep (fs.map (·.emit d))) (d.NoneCapped (Filter.subqueriesOf fs))
  | [] => Uncapped.nothing.mono fun _ => .nil d
  | [f] => (f.emit_uncapped d).mono fun alone => alone.append (.nil d)
  | f :: g :: rest =>
    ((f.emit_uncapped d).seq (.cons (Filter.separated_uncapped d sep (g :: rest)))).mono
      fun both => both.1.append both.2

theorem Filter.emitCondition_uncapped (d : Dialect) (keyword : String) :
    (f : Option Filter) → Uncapped (Filter.emitCondition d keyword f)
      (d.NoneCapped ((f.map Filter.subqueries).getD []))
  | none => Uncapped.nothing.mono fun _ => .nil d
  | some f => .cons (f.emit_uncapped d)

/-- What a query that is written does to the cap of the statement, and what it says of the queries
in it. -/
theorem Filter.writes_emitQuery (d : Dialect) (nested : Bool) :
    (q : QueryOf Filter) → ∀ b b', Writes (Filter.emitQuery d nested q) b b' →
      (d.rowLimit = .driver → nested = true → q.maxRows = 0) ∧
      b'.maxRows = (if d.rowLimit = .driver ∧ 0 < q.maxRows then some q.maxRows else b.maxRows) ∧
      d.NoneCapped (QueryOf.subqueries q)
  | ⟨table, tableAlias, columns, filter, groupBy, having, order, maxRows, distinct⟩ => by
    intro b b' written
    let shape : QueryOf Unit :=
      ⟨table, tableAlias, columns, none, groupBy, none, order, maxRows, distinct⟩
    have filtered := Filter.emitCondition_uncapped d " WHERE " filter
    have restricted := Filter.emitCondition_uncapped d " HAVING " having
    have body := (shape.emitHead_uncapped d).seq (filtered.seq
      ((shape.emitGroups_uncapped d).seq (restricted.seq (shape.emitOrder_uncapped d))))
    have split : Filter.emitQuery d nested
        ⟨table, tableAlias, columns, filter, groupBy, having, order, maxRows, distinct⟩ = (do
          (do
            shape.emitHead d
            Filter.emitCondition d " WHERE " filter
            shape.emitGroups d
            Filter.emitCondition d " HAVING " having
            shape.emitOrder d)
          Instruction.emitAll d (d.capBehind nested maxRows)) := by
      simp only [Filter.emitQuery, QueryOf.emitTail_eq, bind_assoc]
      rfl
    rw [split] at written
    obtain ⟨m, before, behind⟩ := (writes_seq _ _ b b').mp written
    obtain ⟨same, -, inFilter, -, inHaving, -⟩ := body b m before
    obtain ⟨capped, kept⟩ := QueryOf.writes_capBehind d behind
    rw [same] at kept
    exact ⟨capped, kept, inFilter.append inHaving⟩

end

namespace QueryOf

/-- A query is compiled only if the dialect has queries, and then its steps come to their end. -/
theorem writes_of_compile {d : Dialect} {mode : ParamMode} {q : Select} {s : Statement}
    (compiled : q.compile d mode = .ok s) :
    d.selects = true ∧
      ∃ b, Writes (Filter.emitQuery d false q) (.empty mode) b ∧ b.finish d = .ok s := by
  by_cases selects : d.selects = true
  · rw [compile, emit, if_pos selects] at compiled
    exact ⟨selects, _, Emit.writes_of_compile compiled, finish_of_compile compiled⟩
  · rw [compile, emit, if_neg selects] at compiled
    cases compiled

/-- A cap is neither lost nor moved to another query. Where caps are left to the reader of the
result, a query with a capped query in it, at any depth, is not compiled. The statement of any other
query has a cap exactly if the dialect leaves the cap of this query to the reader, and it is that
cap. The text is that of an outline which has the query and each query in it with its cap: whatever
the caps are changed to, the queries with these caps are compiled to the same outline, where each
cap is written in its own query, and nothing else depends on it. -/
theorem compile_caps (d : Dialect) (mode : ParamMode) (q : Select) :
    (d.rowLimit = .driver → (∃ r ∈ q.subqueries, ∃ s : Select, s.Within r ∧ 0 < s.maxRows) →
      ∃ f, q.compile d mode = .error f) ∧
    ∀ s, q.compile d mode = .ok s →
      (∀ n, s.maxRows = some n ↔ d.rowLimit = .driver ∧ 0 < q.maxRows ∧ n = q.maxRows) ∧
      ∃ outline : Outline, outline.caps = [q.caps] ∧
        (∀ g, (q.recap g).compile d mode =
          Emit.compile d mode (Instruction.emitAll d (outline.script d g false))) ∧
        ∃ ps, d.pieces mode (outline.script d id false) = (ps, .ok ()) ∧
          s = Piece.statement d.placeholder ps := by
  constructor
  · rintro driver ⟨r, member, c, within, capped⟩
    cases compiled : q.compile d mode with
    | error f => exact ⟨f, rfl⟩
    | ok s =>
      obtain ⟨-, b, steps, -⟩ := writes_of_compile compiled
      obtain ⟨-, -, inner⟩ := Filter.writes_emitQuery d false q _ b steps
      rw [inner driver r member c within] at capped
      cases capped
  · intro s compiled
    obtain ⟨selects, b, steps, finished⟩ := writes_of_compile compiled
    obtain ⟨-, kept, -⟩ := Filter.writes_emitQuery d false q _ b steps
    obtain ⟨outline, counted, same⟩ := Filter.emitQuery_outlined d false q
    have every (g : Nat → Nat) : (q.recap g).compile d mode =
        Emit.compile d mode (Instruction.emitAll d (outline.script d g false)) := by
      rw [← same, compile, emit, if_pos selects]
      rfl
    refine ⟨fun n => ?_, outline, counted, every, ?_⟩
    · rw [Buffer.eq_of_finish finished, kept]
      by_cases left : d.rowLimit = .driver ∧ 0 < q.maxRows
      · rw [if_pos left, Option.some.injEq, eq_comm]
        exact ⟨fun same => ⟨left.1, left.2, same⟩, fun all => all.2.2⟩
      · rw [if_neg left]
        refine ⟨fun capped => ?_, fun all => absurd ⟨all.1, all.2.1⟩ left⟩
        cases capped
    · have here := every id
      rw [recap_id, compiled] at here
      obtain ⟨ps, added, ended⟩ := compile_emitAll_eq_ok.mp here.symm
      exact ⟨ps, added, Buffer.statement_of_finish ended⟩

/-- At most three orders of at most five customers. -/
example :
    let customers : Select :=
      ⟨"Customers", none, ⟨[⟨.col "Id", "Id"⟩]⟩, none, [], none, none, 5, false⟩
    let orders : Select :=
      ⟨"Orders", none, .empty, some (.inSubquery (.col "Buyer") customers), [], none, none, 3, true⟩
    (orders.compile Builtin.mssql.dialect .bind).map Statement.sql = .ok (
      "SELECT DISTINCT TOP 3 * FROM [Orders] WHERE [Buyer] IN " ++
        "(SELECT TOP 5 [Id] FROM [Customers])") ∧
    orders.compile Builtin.db2.dialect .bind = .error (.unsupported "Db2" .subqueryRowLimit) := by
  decide +kernel

end QueryOf

end SqlScribe

import SqlScribe.Proofs.Condition.Lists
import SqlScribe.Proofs.Query.Caps

/-!
# Outlines of statements

The outline of a statement shows the queries in it, each with its cap, among instructions that no
cap has a part in. A query is written by one outline whatever the caps are: each of them is written
where its own query stands, or is left to whoever reads the result.
-/

namespace SqlScribe

open Text Emit

/-- Instructions that no cap has a part in, and queries with what stands in them. -/
inductive Outline
  | own (script : List Instruction)
  | query (distinct : Bool) (maxRows : Nat) (body : List Outline)

namespace Dialect

/-- A cap where it stands in front of the result columns. -/
def capInFront (d : Dialect) (rows : Nat) : List Instruction :=
  if 0 < rows ∧ d.rowLimit = .top then [.text ("TOP " ++ numeral rows ++ " ")] else []

/-- A cap where it stands at the end, or is left to the reader of the result. A nested query has no
such reader. -/
def capBehind (d : Dialect) (nested : Bool) (rows : Nat) : List Instruction :=
  if 0 < rows then
    match d.rowLimit with
    | .top => []
    | .limit => [.text (" LIMIT " ++ numeral rows)]
    | .driver =>
      if nested then [.refuse (.unsupported d.name .subqueryRowLimit)] else [.cap rows]
  else []

end Dialect

namespace Outline

mutual

/-- What is written with caps that are changed in some way. All queries within others are nested. -/
def script (d : Dialect) (g : Nat → Nat) (nested : Bool) : Outline → List Instruction
  | own script => script
  | query distinct maxRows body =>
    .text "SELECT " :: ((if distinct then [.text "DISTINCT "] else []) ++
      d.capInFront (g maxRows)) ++ scripts d g body ++ d.capBehind nested (g maxRows)

def scripts (d : Dialect) (g : Nat → Nat) : List Outline → List Instruction
  | [] => []
  | part :: rest => part.script d g true ++ scripts d g rest

end

mutual

/-- The caps of the queries in an outline. -/
def caps : Outline → List Caps
  | own _ => []
  | query _ maxRows body => [.node maxRows (capsOfAll body)]

def capsOfAll : List Outline → List Caps
  | [] => []
  | part :: rest => part.caps ++ capsOfAll rest

end

theorem scripts_append (d : Dialect) (g : Nat → Nat) (parts more : List Outline) :
    scripts d g (parts ++ more) = scripts d g parts ++ scripts d g more := by
  induction parts with
  | nil => rfl
  | cons part rest ih => rw [List.cons_append, scripts, ih, scripts, List.append_assoc]

theorem capsOfAll_append (parts more : List Outline) :
    capsOfAll (parts ++ more) = capsOfAll parts ++ capsOfAll more := by
  induction parts with
  | nil => rfl
  | cons part rest ih => rw [List.cons_append, capsOfAll, ih, capsOfAll, List.append_assoc]

/-- A text of its own. -/
def text (s : String) : Outline := own [.text s]

theorem scripts_joined (d : Dialect) (g : Nat → Nat) (sep : String) (parts : List (List Outline)) :
    scripts d g (Listing.joined text sep parts) =
      Listing.joined .text sep (parts.map (scripts d g)) := by
  induction parts with
  | nil => rfl
  | cons part rest ih =>
    cases rest with
    | nil => rfl
    | cons next others =>
      have split : Listing.joined text sep (part :: next :: others) =
          part ++ text sep :: Listing.joined text sep (next :: others) := rfl
      rw [split, scripts_append, scripts, ih]
      rfl

theorem capsOfAll_joined (sep : String) (parts : List (List Outline)) :
    capsOfAll (Listing.joined text sep parts) = capsOfAll parts.flatten := by
  induction parts with
  | nil => rfl
  | cons part rest ih =>
    cases rest with
    | nil => simp [Listing.joined]
    | cons next others =>
      have split : Listing.joined text sep (part :: next :: others) =
          part ++ text sep :: Listing.joined text sep (next :: others) := rfl
      have whole : (part :: next :: others).flatten = part ++ (next :: others).flatten := rfl
      rw [split, whole, capsOfAll_append, capsOfAll_append, capsOfAll, ih]
      rfl

end Outline

/-- Whatever the caps are changed to, the step writes one outline, whose queries have these caps. -/
def Emit.Outlined (d : Dialect) (step : (Nat → Nat) → Emit Unit) (caps : List Caps) : Prop :=
  ∃ body, Outline.capsOfAll body = caps ∧
    ∀ g, step g = Instruction.emitAll d (Outline.scripts d g body)

namespace Emit.Outlined

variable {d : Dialect} {α : Type} {caps more : List Caps} {step next : (Nat → Nat) → Emit Unit}

/-- A step that no cap has a part in. -/
theorem scripted {step : (Nat → String) → Emit Unit} (h : Scripted d step) :
    Outlined d (fun _ => step d.placeholder) [] := by
  obtain ⟨script, written⟩ := h
  refine ⟨[.own script], rfl, fun g => ?_⟩
  rw [written, Outline.scripts, Outline.script, Outline.scripts, List.append_nil]
  rfl

theorem seq (first : Outlined d step caps) (then_next : Outlined d next more) :
    Outlined d (fun g => do step g; next g) (caps ++ more) := by
  obtain ⟨body, rfl, written⟩ := first
  obtain ⟨behind, rfl, later⟩ := then_next
  refine ⟨body ++ behind, Outline.capsOfAll_append body behind, fun g => ?_⟩
  dsimp only
  rw [written, later, Outline.scripts_append, Instruction.emitAll_append]

/-- A text in front. -/
theorem cons {s : String} (then_next : Outlined d next more) :
    Outlined d (fun g => do Emit.text s; next g) more :=
  (scripted (.text d s)).seq then_next

/-- Behind a fault nothing is written, whatever was to follow. -/
theorem attempt [Inhabited α] {r : Except Fault α} {next : (Nat → Nat) → α → Emit Unit}
    (h : ∀ a, Outlined d (next · a) caps) :
    Outlined d (fun g => Emit.attempt r >>= next g) caps := by
  cases r with
  | ok a => exact h a
  | error fault =>
    obtain ⟨body, counted, -⟩ := h default
    exact ⟨.own [.refuse fault] :: body, counted, fun _ => rfl⟩

theorem enclosed (h : Outlined d step caps) : Outlined d (fun g => enclosed d (step g)) caps := by
  unfold Emit.enclosed
  by_cases wanted : d.features.parenthesizeFilters = true
  · simp only [if_pos wanted]
    have closed := h.seq (scripted (.text d ")"))
    rw [List.append_nil] at closed
    exact .cons closed
  · simp only [if_neg wanted]
    exact h

end Emit.Outlined

/-- Whatever the caps are changed to, the steps write outlines, whose queries have these caps. -/
def Emit.OutlinedAll (d : Dialect) (steps : (Nat → Nat) → List (Emit Unit)) (caps : List Caps) :
    Prop :=
  ∃ bodies : List (List Outline), Outline.capsOfAll bodies.flatten = caps ∧
    ∀ g, steps g = (bodies.map (Outline.scripts d g)).map (Instruction.emitAll d)

namespace Emit.OutlinedAll

variable {d : Dialect} {caps more : List Caps} {steps : (Nat → Nat) → List (Emit Unit)}

theorem nil : OutlinedAll d (fun _ => []) [] := ⟨[], rfl, fun _ => rfl⟩

theorem cons {step : (Nat → Nat) → Emit Unit} (first : Outlined d step caps)
    (others : OutlinedAll d steps more) :
    OutlinedAll d (fun g => step g :: steps g) (caps ++ more) := by
  obtain ⟨body, rfl, written⟩ := first
  obtain ⟨bodies, rfl, later⟩ := others
  refine ⟨body :: bodies, ?_, fun g => congrArg₂ List.cons (written g) (later g)⟩
  rw [List.flatten_cons, Outline.capsOfAll_append]

theorem junction (sep : String) (empty : Bool) (h : OutlinedAll d steps caps) :
    Outlined d (fun g => Emit.junction d sep empty (steps g)) caps := by
  obtain ⟨bodies, rfl, written⟩ := h
  simp only [written]
  match bodies with
  | [] => exact .scripted (.text d (d.truth empty))
  | [body] => exact ⟨body, by simp, fun _ => rfl⟩
  | first :: second :: rest =>
    have all : Outlined d (fun g => separated sep
        (((first :: second :: rest).map (Outline.scripts d g)).map (Instruction.emitAll d)))
        (Outline.capsOfAll (first :: second :: rest).flatten) := by
      refine ⟨_, Outline.capsOfAll_joined sep _, fun g => ?_⟩
      dsimp only
      rw [separated_emitAll, Outline.scripts_joined]
    have closed := all.seq (.scripted (.text d ")"))
    rw [List.append_nil] at closed
    exact .cons closed

end Emit.OutlinedAll

namespace QueryOf

variable {Condition : Type}

/-- What a query selects and where from. -/
def emitSelection (d : Dialect) (q : QueryOf Condition) : Emit Unit := do
  if q.columns.isEmpty then text "*"
  else text (join ", " (← attempt (q.columns.items.mapM (·.render d))))
  text " FROM "
  text (← attempt (d.tableName q.table))
  match q.tableAlias with
  | none => pure ()
  | some name =>
    if !d.features.tableAlias then attempt (d.lacks .tableAlias)
    else
      text " AS "
      text (← attempt (d.identifier name))

/-- The ordering. -/
def emitOrder (d : Dialect) (q : QueryOf Condition) : Emit Unit := do
  match q.order with
  | none | some [] => pure ()
  | some order =>
    text " ORDER BY "
    text (← attempt (Order.render d order))

theorem emitHead_eq (d : Dialect) (q : QueryOf Condition) :
    q.emitHead d = (do
      Instruction.emitAll d (.text "SELECT " ::
        ((if q.distinct then [.text "DISTINCT "] else []) ++ d.capInFront q.maxRows))
      q.emitSelection d) := by
  obtain ⟨_, tableAlias, _, _, _, _, _, maxRows, distinct⟩ := q
  unfold emitHead emitSelection Dialect.capInFront
  by_cases capped : 0 < maxRows ∧ d.rowLimit = .top
  · cases distinct <;> cases tableAlias <;>
      simp [capped, Instruction.emitAll, Instruction.emit]
  · cases distinct <;> cases tableAlias <;>
      simp [capped, Instruction.emitAll, Instruction.emit]

theorem emitTail_eq (d : Dialect) (nested : Bool) (q : QueryOf Condition) :
    q.emitTail d nested = (do
      q.emitOrder d
      Instruction.emitAll d (d.capBehind nested q.maxRows)) := by
  obtain ⟨_, _, _, _, _, _, order, maxRows, _⟩ := q
  unfold emitTail emitOrder Dialect.capBehind
  by_cases capped : 0 < maxRows
  · cases limit : d.rowLimit with
    | top => rcases order with _ | _ | _ <;> simp [Instruction.emitAll]
    | limit =>
      rcases order with _ | _ | _ <;>
        simp [capped, Instruction.emitAll, Instruction.emit]
    | driver =>
      cases nested <;> rcases order with _ | _ | _ <;>
        simp [capped, Instruction.emitAll, Instruction.emit, Dialect.lacks]
  · rcases order with _ | _ | _ <;> simp [capped, Instruction.emitAll]

theorem emitSelection_scripted (d : Dialect) (q : QueryOf Condition) :
    Scripted d fun mark => q.emitSelection (d.withMarks mark) := by
  simp only [emitSelection, NamedExpr.render_withMarks, Dialect.tableName_withMarks,
    Dialect.features_withMarks, Dialect.lacks_withMarks, Dialect.identifier_withMarks]
  have source := emitSource_scripted d q
  apply Scripted.branch
  · intro _
    exact .cons source
  · intro _
    exact .attempt fun columns _ => .cons source

theorem emitOrder_scripted (d : Dialect) (q : QueryOf Condition) :
    Scripted d fun mark => q.emitOrder (d.withMarks mark) := by
  simp only [emitOrder, Order.render_withMarks]
  split
  · exact .nothing d
  · exact .nothing d
  · exact .cons (.attempt fun order _ => .text d order)

end QueryOf

/-- Caps have no part in what is asked of a subquery. -/
theorem Filter.checkSubquery_recap (d : Dialect) (g : Nat → Nat) (q : Select) :
    checkSubquery d (recapQuery g q) = checkSubquery d q := by
  cases q
  rfl

mutual

/-- A filter is written by one outline, whatever the caps of its queries are. -/
theorem Filter.emit_outlined (d : Dialect) :
    (f : Filter) → Outlined d (fun g => (f.recap g).emit d) f.caps
  | .and parts => by
    simp only [Filter.recap, Filter.emit_and]
    exact (Filter.emit_outlinedAll d parts).junction " AND " true
  | .or parts => by
    simp only [Filter.recap, Filter.emit_or]
    exact (Filter.emit_outlinedAll d parts).junction " OR " false
  | .not part => by
    have closed := (part.emit_outlined d).seq (.scripted (.text d ")"))
    rw [List.append_nil] at closed
    exact .cons (.cons closed)
  | .inSubquery e q => by
    obtain ⟨outline, counted, written⟩ := Filter.emitQuery_outlined d true q
    have query : Outlined d (fun g => Filter.emitQuery d true (Filter.recapQuery g q))
        [Filter.capsOfQuery q] := by
      refine ⟨[outline], ?_, fun g => ?_⟩
      · rw [Outline.capsOfAll, counted]
        rfl
      · dsimp only
        rw [written, Outline.scripts, Outline.scripts, List.append_nil]
    have closed := query.seq (.scripted (.text d ")"))
    rw [List.append_nil] at closed
    simp only [Filter.recap, Filter.emit, Filter.checkSubquery_recap]
    exact .enclosed (.attempt fun _ => .attempt fun lhs => .cons (.cons closed))
  | .compare e op c nullAsDefault =>
    .scripted ((Filter.compare e op c nullAsDefault).emit_scripted d)
  | .compareNull e negated => .scripted ((Filter.compareNull e negated).emit_scripted d)
  | .oneOf e values => .scripted ((Filter.oneOf e values).emit_scripted d)
  | .startsWith e start => .scripted ((Filter.startsWith e start).emit_scripted d)
  | .contains e needle => .scripted ((Filter.contains e needle).emit_scripted d)
  | .between e low high => .scripted ((Filter.between e low high).emit_scripted d)
  | .constant b => .scripted ((Filter.constant b).emit_scripted d)

theorem Filter.emit_outlinedAll (d : Dialect) :
    (fs : List Filter) →
      OutlinedAll d (fun g => (Filter.recapAll g fs).map (·.emit d)) (Filter.capsOfAll fs)
  | [] => .nil
  | f :: rest => .cons (f.emit_outlined d) (Filter.emit_outlinedAll d rest)

theorem Filter.emitCondition_outlined (d : Dialect) (keyword : String) :
    (f : Option Filter) →
      Outlined d (fun g => Filter.emitCondition d keyword (Filter.recapCondition g f))
        (Filter.capsOfCondition f)
  | none => .scripted (.nothing d)
  | some f => .cons (f.emit_outlined d)

/-- A query is written by the outline of one query with its cap. -/
theorem Filter.emitQuery_outlined (d : Dialect) (nested : Bool) :
    (q : QueryOf Filter) → ∃ outline : Outline, outline.caps = [Filter.capsOfQuery q] ∧
      ∀ g, Filter.emitQuery d nested (Filter.recapQuery g q) =
        Instruction.emitAll d (outline.script d g nested)
  | ⟨table, tableAlias, columns, filter, groupBy, having, order, maxRows, distinct⟩ => by
    let shape : QueryOf Unit :=
      ⟨table, tableAlias, columns, none, groupBy, none, order, maxRows, distinct⟩
    have filtered := Filter.emitCondition_outlined d " WHERE " filter
    have restricted := Filter.emitCondition_outlined d " HAVING " having
    have selected : Outlined d (fun _ => shape.emitSelection d) [] :=
      .scripted (shape.emitSelection_scripted d)
    have grouped : Outlined d (fun _ => shape.emitGroups d) [] :=
      .scripted (QueryOf.emitGroups_scripted d shape)
    have ordered : Outlined d (fun _ => shape.emitOrder d) [] :=
      .scripted (shape.emitOrder_scripted d)
    obtain ⟨body, counted, written⟩ :=
      selected.seq (filtered.seq (grouped.seq (restricted.seq ordered)))
    refine ⟨.query distinct maxRows body, ?_, fun g => ?_⟩
    · rw [Outline.caps, counted]
      simp [Filter.capsOfQuery]
    · have between := written g
      simp only [Filter.recapQuery, Filter.emitQuery, QueryOf.emitHead_eq, QueryOf.emitTail_eq,
        Outline.script, Instruction.emitAll_append]
      rw [← between]
      simp only [bind_assoc]
      rfl

end

end SqlScribe

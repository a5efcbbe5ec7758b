import SqlScribe.Proofs.Condition.Rendering
import SqlScribe.Proofs.Groups

/-!
# The words that a filter is written with

Whatever the emission of a filter writes, the words of its condition write: in whatever mode, and
behind whatever was written before.
-/

namespace SqlScribe

open Emit Text

/-- The step succeeds and leads from one buffer to another. -/
def Emit.Writes (step : Emit Unit) (b b' : Buffer) : Prop := step.run.run b = (.ok (), b')

namespace Emit

theorem writes_seq (step next : Emit Unit) (b b' : Buffer) :
    Writes (do step; next) b b' ↔ ∃ m, Writes step b m ∧ Writes next m b' := by
  have both : (do step; next : Emit Unit).run.run b =
      (ExceptT.bindCont (fun _ => next) (step.run.run b).1 : StateM Buffer _).run
        (step.run.run b).2 := rfl
  unfold Writes
  rw [both]
  generalize step.run.run b = done
  obtain ⟨r, m⟩ := done
  constructor
  · intro h
    cases r with
    | error e => cases h
    | ok _ => exact ⟨m, rfl, h⟩
  · rintro ⟨m', ⟨⟩, later⟩
    exact later

/-- A step that needs a result writes something only if there is one. -/
theorem writes_attempt {α : Type} {r : Except Fault α} {next : α → Emit Unit} {b b' : Buffer} :
    Writes (attempt r >>= next) b b' ↔ ∃ a, r = .ok a ∧ Writes (next a) b b' := by
  constructor
  · intro h
    cases r with
    | ok a => exact ⟨a, rfl, h⟩
    | error e => cases h
  · rintro ⟨a, rfl, h⟩
    exact h

/-- Steps between parentheses with a text between them. A step alone has no parentheses, and no
steps are a constant. -/
def junction (d : Dialect) (sep : String) (empty : Bool) : List (Emit Unit) → Emit Unit
  | [] => Emit.text (d.truth empty)
  | [only] => only
  | first :: second :: rest => do
    Emit.text "("
    separated sep (first :: second :: rest)
    Emit.text ")"

/-- Parentheses that depend on the number of steps are those of a junction. -/
theorem junction_counted (d : Dialect) (sep : String) (empty : Bool) {steps : List (Emit Unit)}
    (nonempty : steps ≠ []) :
    (if 1 < steps.length then do
      Emit.text "("
      separated sep steps
      if 1 < steps.length then Emit.text ")"
    else do
      separated sep steps
      if 1 < steps.length then Emit.text ")") = junction d sep empty steps := by
  match steps with
  | [] => exact absurd rfl nonempty
  | [only] => simp [junction, separated]
  | first :: second :: rest => simp [junction]

end Emit

namespace Sql

/-- The expression in SQL. -/
def Scalar.render (d : Dialect) : Scalar → Except Fault String
  | expr e => e.render d
  | coalesced path fallback => do
    return d.coalesce (← d.column path) (← d.literal fallback.value fallback.type)

/-- The pattern, what is special in the text it is for being escaped. -/
def LikePattern.text (d : Dialect) : LikePattern → String
  | startsWith start => d.escapeLike start ++ "%"
  | contains needle => "%" ++ d.escapeLike needle ++ "%"

/-- The text of a word. Expressions and constants have none of their own, and a pattern has only
what stands behind it. -/
def Lexeme.words (d : Dialect) : Lexeme → String
  | truth b => d.truth b
  | scalar _ | constant _ => ""
  | pattern _ => d.likeEscapeClause
  | comparison op => " " ++ op.sql ++ " "
  | isNull negated => if negated then " IS NOT NULL" else " IS NULL"
  | oneOf => " IN "
  | like => " LIKE "
  | between => " BETWEEN "
  | not => "NOT "
  | and => " AND "
  | or => " OR "
  | opening => "("
  | closing => ")"
  | comma => ", "

/-- Writes a word. -/
def Lexeme.emit (d : Dialect) : Lexeme → Emit Unit
  | scalar s => do Emit.text (← attempt (s.render d))
  | constant c => c.emit d
  | pattern p => do
    value d (.string (p.text d)) .string
    Emit.text ((pattern p).words d)
  | word => Emit.text (word.words d)

/-- Writes words one after the other. -/
def emitAll (d : Dialect) : List Lexeme → Emit Unit
  | [] => pure ()
  | word :: rest => do
    word.emit d
    emitAll d rest

theorem emitAll_append (d : Dialect) (words more : List Lexeme) :
    emitAll d (words ++ more) = (do emitAll d words; emitAll d more) := by
  induction words with
  | nil => simp [emitAll]
  | cons word rest ih => simp [emitAll, ih]

theorem emitAll_singleton (d : Dialect) (word : Lexeme) : emitAll d [word] = word.emit d := by
  simp [emitAll]

/-- Whatever the step writes, the words write as well. -/
def Covers (d : Dialect) (step : Emit Unit) (words : List Lexeme) : Prop :=
  ∀ b b', Writes step b b' → Writes (emitAll d words) b b'

namespace Covers

variable {d : Dialect} {step next : Emit Unit} {words more : List Lexeme}

theorem word (d : Dialect) (word : Lexeme) : Covers d (word.emit d) [word] := by
  intro b b' h
  rwa [emitAll_singleton]

theorem seq (first : Covers d step words) (then_next : Covers d next more) :
    Covers d (do step; next) (words ++ more) := by
  intro b b' h
  obtain ⟨m, before, after⟩ := (writes_seq step next b b').mp h
  rw [emitAll_append]
  exact (writes_seq _ _ b b').mpr ⟨m, first b m before, then_next m b' after⟩

/-- A word in front. -/
theorem cons (w : Lexeme) (then_next : Covers d next more) :
    Covers d (do w.emit d; next) (w :: more) := seq (word d w) then_next

theorem attempt {α : Type} {r : Except Fault α} {next : α → Emit Unit}
    (h : ∀ a, r = .ok a → Covers d (next a) words) : Covers d (Emit.attempt r >>= next) words := by
  intro b b' written
  obtain ⟨a, result, later⟩ := writes_attempt.mp written
  exact h a result b b' later

/-- An expression that is known to be written this way. -/
theorem scalar {s : Scalar} {text : String} (h : s.render d = .ok text) :
    Covers d (Emit.text text) [.scalar s] := by
  intro b b' written
  rw [emitAll_singleton, Lexeme.emit, h]
  exact written

/-- Lists of words with a word between neighbours. -/
def joined (w : Lexeme) : List (List Lexeme) → List Lexeme
  | [] => []
  | [words] => words
  | words :: rest => words ++ w :: joined w rest

/-- Steps with a text between them write their words with a word between them. -/
theorem separated {sep : String} {w : Lexeme} (same : w.emit d = Emit.text sep)
    {steps : List (Emit Unit)} {parts : List (List Lexeme)}
    (h : List.Forall₂ (Covers d) steps parts) :
    Covers d (Emit.separated sep steps) (joined w parts) := by
  induction h with
  | nil =>
    intro b b' written
    exact written
  | cons first rest ih =>
    cases rest with
    | nil => exact first
    | cons _ _ =>
      rw [Emit.separated, ← same, joined]
      · exact first.seq (cons w ih)
      · simp
      · simp

theorem chain_lexemes {join : Condition → Condition → Condition} {w : Lexeme}
    (joins : ∀ a b, (join a b).lexemes = a.lexemes ++ w :: b.lexemes) (first : Condition)
    (rest : List Condition) :
    (chain join first rest).lexemes = joined w ((first :: rest).map Condition.lexemes) := by
  induction rest generalizing first with
  | nil => rfl
  | cons next rest ih =>
    rw [chain, joins, ih]
    rfl

theorem members (d : Dialect) (first : Constant) (others : List Constant) :
    Covers d (Emit.separated ", " ((first :: others).map (·.emit d)))
      (.constant first :: memberLexemes others) := by
  have words : .constant first :: memberLexemes others =
      joined .comma ((first :: others).map fun c => [.constant c]) := by
    induction others generalizing first with
    | nil => rfl
    | cons next others ih =>
      rw [memberLexemes, ih]
      rfl
  rw [words]
  apply separated rfl
  rw [List.forall₂_map_left_iff, List.forall₂_map_right_iff, List.forall₂_same]
  exact fun c _ => word d (.constant c)

/-- A junction of steps writes the junction of what the steps write. -/
theorem junction {join : Condition → Condition → Condition} {w : Lexeme} {sep : String}
    (joins : ∀ a b, (join a b).lexemes = a.lexemes ++ w :: b.lexemes)
    (same : w.emit d = Emit.text sep) (empty : Bool) {steps : List (Emit Unit)}
    {parts : List Condition} (h : List.Forall₂ (Covers d) steps (parts.map Condition.lexemes)) :
    Covers d (Emit.junction d sep empty steps) (Sql.junction join empty parts).lexemes := by
  match steps, parts, h with
  | [], [], _ => exact word d (.truth empty)
  | [_], [_], .cons only _ => exact only
  | first :: second :: steps, one :: two :: parts, h =>
    have inner := separated same h
    rw [List.map_cons, ← List.map_cons, ← chain_lexemes joins] at inner
    exact .cons .opening (inner.seq (word d .closing))

end Covers

end Sql

open Sql

/-- Where the dialect writes a default of the type, it is the one that the type has in memory. -/
def Dialect.KeepsDefault (d : Dialect) (type : ColumnType) : Prop :=
  ∀ s, d.defaultLiteral type = .ok s → d.literal type.default type = .ok s

theorem Dialect.KeepsDefault.of_default {d : Dialect} {type : ColumnType}
    (special : d.specialDefault type = none) (same : d.defaultValue type = type.default) :
    d.KeepsDefault type := by
  intro s written
  rw [Dialect.defaultLiteral, special, same] at written
  by_cases unknown : type = .unknown
  · rw [if_pos unknown] at written
    cases written
  · rwa [if_neg unknown] at written

namespace Filter

/-- The left side of a comparison is written as the words say, with the default that may stand in
for NULL. -/
theorem comparedSide_render {d : Dialect} {e : Expr} {nullAsDefault : Bool} {type : ColumnType}
    {lhs : String}
    (kept : nullAsDefault = true → e.asColumn?.isSome = true → d.KeepsDefault type)
    (h : (if nullAsDefault then e.renderOrDefault d type else e.render d) = .ok lhs) :
    (comparedSide e nullAsDefault type).render d = .ok lhs := by
  cases nullAsDefault with
  | false => exact h
  | true =>
    rw [if_pos rfl, Expr.renderOrDefault] at h
    unfold comparedSide
    cases side : e.asColumn? with
    | none =>
      rw [side] at h
      exact h
    | some path =>
      simp only [side] at h
      simp only [Scalar.render]
      cases column : d.column path with
      | error f => simp [column, bind, Except.bind] at h
      | ok text =>
        simp only [column, bind, Except.bind] at h ⊢
        split at h
        · cases h
        · cases written : d.defaultLiteral type with
          | error f => simp [written] at h
          | ok fallback =>
            have standing := kept rfl (by simp [side]) fallback written
            simp only [written] at h
            simp only [standing]
            exact h

theorem emitCompare_covers {d : Dialect} {e : Expr} (op : Comparison) {c : Constant}
    {nullAsDefault : Bool}
    (kept : nullAsDefault = true → e.asColumn?.isSome = true → d.KeepsDefault c.type) :
    Covers d (emitCompare d e op c nullAsDefault)
      (compareCondition e op c nullAsDefault).lexemes := by
  unfold emitCompare compareCondition
  split
  · apply Covers.attempt
    intro lhs rendered
    have side : Covers d (Emit.text lhs) [.scalar (.expr e)] := Covers.scalar rendered
    cases op with
    | eq => exact side.seq (Covers.word d (.isNull false))
    | ne => exact side.seq (Covers.word d (.isNull true))
    | _ => exact Covers.word d (.truth false)
  · apply Covers.attempt
    intro lhs rendered
    split
    · rename_i different
      rw [if_neg (by simpa using different.2)] at rendered
      have side : Covers d (Emit.text lhs) [.scalar (.expr e)] := Covers.scalar rendered
      have alternative : Covers d (do
            Emit.text " OR "
            Emit.text lhs
            Emit.text " IS NULL"
            Emit.text ")")
          [.or, .scalar (.expr e), .isNull false, .closing] :=
        .cons .or (side.seq (.cons (.isNull false) (Covers.word d .closing)))
      exact .cons .opening (side.seq (.cons (.comparison .ne) (.cons (.constant c) alternative)))
    · have side := Covers.scalar (comparedSide_render kept rendered)
      exact side.seq (.cons (.comparison op) (Covers.word d (.constant c)))

theorem emitBetween_covers (d : Dialect) (e : Expr) (low high : Constant) :
    Covers d (emitBetween d e low high) (betweenCondition d e low high).lexemes := by
  unfold emitBetween betweenCondition
  split
  · intro b b' written
    cases written
  · apply Covers.attempt
    intro lhs rendered
    have side : Covers d (Emit.text lhs) [.scalar (.expr e)] := Covers.scalar rendered
    split
    · have ends : Covers d (do low.emit d; Emit.text " AND "; high.emit d)
          [.constant low, .and, .constant high] :=
        .cons (.constant low) (.cons .and (Covers.word d (.constant high)))
      exact side.seq (.cons .between ends)
    · have upper : Covers d (do Emit.text lhs; Emit.text " <= "; high.emit d; Emit.text ")")
          [.scalar (.expr e), .comparison .le, .constant high, .closing] :=
        side.seq (.cons (.comparison .le) (.cons (.constant high) (Covers.word d .closing)))
      have lower := side.seq (.cons (.comparison .ge) (.cons (.constant low) (.cons .and upper)))
      exact .cons .opening lower

theorem emitLike_covers (d : Dialect) (e : Expr) (p : LikePattern) :
    Covers d (emitLike d e (p.text d)) (Condition.like (.expr e) p).lexemes := by
  apply Covers.attempt
  intro lhs rendered
  have side : Covers d (Emit.text lhs) [.scalar (.expr e)] := Covers.scalar rendered
  exact side.seq (.cons .like (Covers.word d (.pattern p)))

theorem emitGroup_covers {d : Dialect} {e : Expr} {lhs : String} (rendered : e.render d = .ok lhs)
    {group : List Constant} (nonempty : 0 < group.length) :
    Covers d (emitGroup d lhs group) (groupCondition e group).lexemes := by
  cases group with
  | nil => cases nonempty
  | cons first others =>
    have side : Covers d (Emit.text lhs) [.scalar (.expr e)] := Covers.scalar rendered
    have members := (Covers.members d first others).seq (Covers.word d .closing)
    exact side.seq (.cons .oneOf (.cons .opening members))

theorem emitOneOf_terms {d : Dialect} {e : Expr} {lhs : String} (rendered : e.render d = .ok lhs)
    (values : List Constant) :
    List.Forall₂ (Covers d)
      ((inGroups d.features.maxInList (values.filter (!·.isNull))).map (emitGroup d lhs) ++
        if values.any (·.isNull) then [do Emit.text lhs; Emit.text " IS NULL"] else [])
      ((oneOfTerms d e values).map Condition.lexemes) := by
  rw [oneOfTerms, List.map_append]
  apply List.rel_append
  · rw [List.map_map, List.forall₂_map_left_iff, List.forall₂_map_right_iff, List.forall₂_same]
    intro group member
    exact emitGroup_covers rendered (pos_of_mem_inGroups member)
  · split
    · have side : Covers d (Emit.text lhs) [.scalar (.expr e)] := Covers.scalar rendered
      exact .cons (side.seq (Covers.word d (.isNull false))) .nil
    · exact .nil

theorem oneOfTerms_ne_nil (d : Dialect) (e : Expr) {values : List Constant} (h : values ≠ []) :
    oneOfTerms d e values ≠ [] := by
  intro nothing
  obtain ⟨no_group, no_null⟩ := List.append_eq_nil_iff.mp nothing
  have no_member : values.filter (!·.isNull) = [] := by
    rw [← flatten_inGroups d.features.maxInList (values.filter (!·.isNull)),
      List.map_eq_nil_iff.mp no_group]
    rfl
  cases values with
  | nil => exact h rfl
  | cons c rest =>
    cases null : c.isNull with
    | true => simp [null] at no_null
    | false => simp [null] at no_member

theorem emitOneOf_covers (d : Dialect) (e : Expr) (values : List Constant) :
    Covers d (emitOneOf d e values) (oneOfCondition d e values).lexemes := by
  unfold emitOneOf
  split
  · rename_i nothing
    rw [List.isEmpty_iff.mp nothing, oneOfCondition, oneOfTerms]
    simp only [List.filter_nil, inGroups_nil]
    exact Covers.word d (.truth false)
  · rename_i something
    apply Covers.attempt
    intro lhs rendered
    have terms := emitOneOf_terms rendered values
    have some_term := oneOfTerms_ne_nil d e (by simpa using something)
    dsimp only
    rw [Emit.junction_counted d " OR " false]
    · exact Covers.junction Condition.lexemes_or rfl false terms
    · intro none_step
      rw [none_step] at terms
      exact some_term (List.map_eq_nil_iff.mp (List.forall₂_nil_left_iff.mp terms))

theorem emitRest_eq (d : Dialect) (sep : String) (f : Filter) (rest : List Filter) :
    (do f.emit d; Filter.emitRest d sep rest) =
      Emit.separated sep ((f :: rest).map (·.emit d)) := by
  induction rest generalizing f with
  | nil => simp [Filter.emitRest, Emit.separated]
  | cons g rest ih =>
    rw [List.map_cons, List.map_cons, Emit.separated, ← List.map_cons, ← ih, Filter.emitRest]
    simp

theorem emit_and (d : Dialect) (parts : List Filter) :
    (Filter.and parts).emit d = Emit.junction d " AND " true (parts.map (·.emit d)) := by
  match parts with
  | [] => simp [Filter.emit, Emit.junction]
  | [f] => simp [Filter.emit, Emit.junction]
  | f :: g :: rest =>
    have all := emitRest_eq d " AND " f (g :: rest)
    rw [List.map_cons, List.map_cons] at all
    rw [List.map_cons, List.map_cons, Emit.junction, ← all]
    simp [Filter.emit]

theorem emit_or (d : Dialect) (parts : List Filter) :
    (Filter.or parts).emit d = Emit.junction d " OR " false (parts.map (·.emit d)) := by
  match parts with
  | [] => simp [Filter.emit, Emit.junction]
  | [f] => simp [Filter.emit, Emit.junction]
  | f :: g :: rest =>
    have all := emitRest_eq d " OR " f (g :: rest)
    rw [List.map_cons, List.map_cons] at all
    rw [List.map_cons, List.map_cons, Emit.junction, ← all]
    simp [Filter.emit]

theorem enclosed_covers {d : Dialect} {body : Emit Unit} {c : Condition}
    (h : Covers d body c.lexemes) : Covers d (Emit.enclosed d body) (enclosedFor d c).lexemes := by
  unfold Emit.enclosed enclosedFor
  split
  · exact .cons .opening (h.seq (Covers.word d .closing))
  · exact h

theorem compareNull_covers (d : Dialect) (e : Expr) (negated : Bool) :
    Covers d (do
        Emit.text (← attempt (e.render d))
        Emit.text (if negated then " IS NOT NULL" else " IS NULL"))
      (Condition.isNull (.expr e) negated).lexemes := by
  apply Covers.attempt
  intro lhs rendered
  have side : Covers d (Emit.text lhs) [.scalar (.expr e)] := Covers.scalar rendered
  exact side.seq (Covers.word d (.isNull negated))

/-- What it takes for a leaf to be written as its condition. -/
structure Direct (d : Dialect) (leaf : Filter) : Prop where
  plain : ∀ e q, leaf ≠ inSubquery e q
  kept : ∀ e op c, leaf = compare e op c true → e.asColumn?.isSome = true →
    d.KeepsDefault c.type

end Filter

mutual

/-- Whatever a filter writes, the words of its condition write, if each of its leaves is written as
its condition. -/
theorem Filter.emit_covers {d : Dialect} :
    (f : Filter) → (∀ leaf ∈ f.leaves, leaf.Direct d) →
      Covers d (f.emit d) (f.condition d).lexemes
  | .and parts, direct => by
    rw [Filter.emit_and]
    exact Covers.junction Condition.lexemes_and rfl true (Filter.emit_covers_all parts direct)
  | .or parts, direct => by
    rw [Filter.emit_or]
    exact Covers.junction Condition.lexemes_or rfl false (Filter.emit_covers_all parts direct)
  | .not part, direct =>
    .cons .not (.cons .opening ((part.emit_covers direct).seq (Covers.word d .closing)))
  | .compare e op c nullAsDefault, direct => by
    refine Filter.enclosed_covers (Filter.emitCompare_covers op ?_)
    rintro rfl column
    exact (direct _ List.mem_cons_self).kept e op c rfl column
  | .compareNull e negated, _ => Filter.enclosed_covers (Filter.compareNull_covers d e negated)
  | .oneOf e values, _ => Filter.enclosed_covers (Filter.emitOneOf_covers d e values)
  | .startsWith e start, _ =>
    Filter.enclosed_covers (Filter.emitLike_covers d e (.startsWith start))
  | .contains e needle, _ => Filter.enclosed_covers (Filter.emitLike_covers d e (.contains needle))
  | .between e low high, _ => Filter.enclosed_covers (Filter.emitBetween_covers d e low high)
  | .constant b, _ => Filter.enclosed_covers (Covers.word d (.truth b))
  | .inSubquery e q, direct => absurd rfl ((direct _ List.mem_cons_self).plain e q)

theorem Filter.emit_covers_all {d : Dialect} :
    (parts : List Filter) → (∀ leaf ∈ Filter.leavesOf parts, leaf.Direct d) →
      List.Forall₂ (Covers d) (parts.map (·.emit d))
        ((Filter.conditions d parts).map Condition.lexemes)
  | [], _ => .nil
  | f :: rest, direct =>
    .cons (f.emit_covers fun leaf member => direct leaf (List.mem_append_left _ member))
      (Filter.emit_covers_all rest fun leaf member => direct leaf (List.mem_append_right _ member))

end

end SqlScribe

import SqlScribe.Proofs.Lexing.Dialects
import SqlScribe.Statement.Expr

/-!
# Expressions without their texts

An expression is rendered alike whatever stands in its text constants: with these redacted it is
refused for the same fault, or it comes out as an operand that corresponds.
-/

namespace SqlScribe

open Text Lexing

/-- Two results that stand in a relation, or are the same fault. -/
inductive SameOutcome {α β : Type} (R : α → β → Prop) : Except Fault α → Except Fault β → Prop
  | ok {a : α} {b : β} (related : R a b) : SameOutcome R (.ok a) (.ok b)
  | error (fault : Fault) : SameOutcome R (.error fault) (.error fault)

namespace SameOutcome

variable {α β α' β' : Type} {R : α → β → Prop} {S : α' → β' → Prop}

/-- One result, related to itself if there is one. -/
theorem same {R : α → α → Prop} {r : Except Fault α} (h : ∀ a, r = .ok a → R a a) :
    SameOutcome R r r := by
  cases r with
  | ok a => exact .ok (h a rfl)
  | error fault => exact .error fault

theorem bind {r : Except Fault α} {r' : Except Fault β} {f : α → Except Fault α'}
    {g : β → Except Fault β'} (first : SameOutcome R r r')
    (then_next : ∀ a b, R a b → SameOutcome S (f a) (g b)) :
    SameOutcome S (r >>= f) (r' >>= g) := by
  cases first with
  | ok related => exact then_next _ _ related
  | error fault => exact .error fault

theorem mapM {f : α → Except Fault α'} {g : β → Except Fault β'} {xs : List α} {ys : List β}
    (h : List.Forall₂ (fun x y => SameOutcome S (f x) (g y)) xs ys) :
    SameOutcome (List.Forall₂ S) (xs.mapM f) (ys.mapM g) := by
  induction h with
  | nil => exact .ok .nil
  | cons first _ ih =>
    rw [List.mapM_cons, List.mapM_cons]
    exact first.bind fun _ _ related => ih.bind fun _ _ others => .ok (.cons related others)

end SameOutcome

namespace Dialect.Closes

variable {marks : Option NameMarks} {d : Dialect}

theorem literal (h : d.Closes marks) {v : Value} {type : ColumnType} {t : String}
    (written : d.literal v type = .ok t) : Operand marks t t := by
  obtain ⟨w, -, made⟩ := bind_eq_ok_iff.mp written
  cases w with
  | null => exact h.literals.null made
  | bool b =>
    obtain rfl := Except.ok.inj made
    exact h.literals.bool b
  | int n =>
    obtain rfl := Except.ok.inj made
    exact Operand.code h.proper (isCode_numeral _)
  | float x =>
    by_cases finite : x.isFinite = true
    · simp only [if_pos finite] at made
      obtain rfl := Except.ok.inj made
      exact Operand.code h.proper (isCode_float finite)
    · simp only [if_neg finite] at made
      cases made
  | money m =>
    obtain rfl := Except.ok.inj made
    exact Operand.code h.proper (isCode_amount m)
  | string s =>
    obtain rfl := Except.ok.inj made
    exact h.literals.text s s
  | date v =>
    obtain rfl := Except.ok.inj made
    exact h.literals.date v
  | time v =>
    obtain rfl := Except.ok.inj made
    exact h.literals.time v
  | dateTime m =>
    obtain rfl := Except.ok.inj made
    exact h.literals.dateTime m
  | guid g =>
    obtain rfl := Except.ok.inj made
    exact h.literals.guid g
  | binary bytes => exact h.literals.binary made

theorem defaultLiteral (h : d.Closes marks) {type : ColumnType} {t : String}
    (written : d.defaultLiteral type = .ok t) : Operand marks t t := by
  unfold Dialect.defaultLiteral at written
  cases special : d.specialDefault type with
  | some own =>
    rw [special] at written
    obtain rfl : own = .ok t := written
    exact h.literals.default special
  | none =>
    rw [special] at written
    by_cases unknown : type = .unknown
    · simp only [if_pos unknown] at written
      cases written
    · simp only [if_neg unknown] at written
      exact h.literal written

/-- A call of operands that correspond corresponds, or there is none for either. -/
theorem call (h : d.Closes marks) (f : Func) {ss ts : List String}
    (args : List.Forall₂ (Operand marks) ss ts) :
    SameOutcome (Operand marks) (d.call f ss) (d.call f ts) := by
  have special := h.calls.specialCall f args
  unfold Dialect.call
  generalize d.specialCall f ss = left at special
  generalize d.specialCall f ts = right at special
  cases special with
  | some related => exact .ok related
  | none =>
    have plain (f : Func) : SameOutcome (Operand marks)
        (do return (← d.functionName f) ++ "(" ++ join ", " ss ++ ")")
        (do return (← d.functionName f) ++ "(" ++ join ", " ts ++ ")") := by
      have name : SameOutcome (Operand marks) (d.functionName f) (d.functionName f) :=
        .same fun _ => h.calls.functionName
      refine name.bind fun s t related => .ok ?_
      exact ((related.append (Alike.glue h.proper "(" rfl)).append
        (Operand.join h.proper ", " rfl args)).append (Alike.glue h.proper ")" rfl)
    cases f with
    | coalesce =>
      have reversed : List.Forall₂ (Operand marks) ss.reverse ts.reverse :=
        List.rel_reverse args
      dsimp only
      generalize ss.reverse = left at reversed
      generalize ts.reverse = right at reversed
      cases reversed with
      | nil => exact .error _
      | @cons last last' rest rest' related others =>
        refine .ok ?_
        induction others generalizing last last' with
        | nil => exact related
        | cons first _ ih => exact ih (h.calls.coalesce first related)
    | concat => exact .ok (h.calls.concat args)
    | _ => exact plain _

theorem aggregate (h : d.Closes marks) (f : Aggregate) {arg arg' : Option String}
    (related : Operand marks (arg.getD "*") (arg'.getD "*")) :
    SameOutcome (Operand marks) (d.aggregate f arg) (d.aggregate f arg') := by
  unfold Dialect.aggregate
  by_cases known : d.features.aggregates = true
  · rw [if_pos known, if_pos known]
    refine .ok ?_
    have name : Operand marks f.sql f.sql := by
      cases f <;> exact Operand.word h.proper _ rfl
    exact ((name.append (Alike.glue h.proper "(" rfl)).append related).append
      (Alike.glue h.proper ")" rfl)
  · rw [if_neg known, if_neg known]
    exact .error _

end Dialect.Closes

/-- The constant is text. -/
def Constant.isText (c : Constant) : Bool :=
  match c.value with
  | .string _ => c.type.isText || c.type == .unknown
  | _ => false

/-- The constant without its characters if it is text, and as it is if not. -/
def Constant.redacted (c : Constant) : Constant := if c.isText then ⟨.string "", c.type⟩ else c

mutual

/-- The expression without the characters of its text constants. -/
def Expr.redacted : Expr → Expr
  | .constant c => .constant c.redacted
  | .column path => .column path
  | .function f args => .function f (Expr.redactedAll args)
  | .aggregate f (some e) => .aggregate f (some e.redacted)
  | .aggregate f none => .aggregate f none

def Expr.redactedAll : List Expr → List Expr
  | [] => []
  | e :: rest => e.redacted :: Expr.redactedAll rest

end

/-- The result column without the characters of its text constants; its name stays. -/
def NamedExpr.redacted (n : NamedExpr) : NamedExpr := ⟨n.expr.redacted, n.label⟩

def OrderTerm.redacted (t : OrderTerm) : OrderTerm :=
  ⟨t.expr.redacted, t.direction, t.substitute.map Expr.redacted⟩

namespace Constant

theorem type_redacted (c : Constant) : c.redacted.type = c.type := by
  unfold redacted
  by_cases text : c.isText = true
  · rw [if_pos text]
  · rw [if_neg text]

theorem exists_of_isText {c : Constant} (text : c.isText = true) :
    ∃ s, c.value = .string s ∧ (c.type.isText = true ∨ c.type = .unknown) := by
  obtain ⟨value, type⟩ := c
  cases value with
  | string s =>
    refine ⟨s, rfl, ?_⟩
    simpa [isText] using text
  | _ => cases text

theorem isNull_redacted (c : Constant) : c.redacted.isNull = c.isNull := by
  unfold redacted
  by_cases text : c.isText = true
  · obtain ⟨s, value, -⟩ := exists_of_isText text
    rw [if_pos text, isNull, isNull, value]
    rfl
  · rw [if_neg text]

end Constant

theorem Expr.redactedAll_eq (es : List Expr) : Expr.redactedAll es = es.map Expr.redacted := by
  induction es with
  | nil => rfl
  | cons e rest ih => rw [Expr.redactedAll, ih, List.map_cons]

theorem Expr.asColumn?_redacted (e : Expr) : e.redacted.asColumn? = e.asColumn? := by
  cases e with
  | aggregate f arg => cases arg <;> rfl
  | _ => rfl

theorem NamedExpr.needsAlias_redacted (n : NamedExpr) : n.redacted.needsAlias = n.needsAlias := by
  unfold needsAlias redacted
  rw [Expr.asColumn?_redacted]

variable {marks : Option NameMarks} {d : Dialect}

/-- The literal of a text is that of any other text with other characters. -/
theorem Dialect.literal_string (d : Dialect) {type : ColumnType}
    (text : type.isText = true ∨ type = .unknown) (s : String) :
    d.literal (.string s) type = .ok (d.textLiteral s) := by
  cases type with
  | string | memo | xml | unknown => rfl
  | _ => simp [ColumnType.isText] at text

theorem Constant.literal_redacted (h : d.Closes marks) (c : Constant) :
    SameOutcome (Operand marks) (d.literal c.value c.type)
      (d.literal c.redacted.value c.redacted.type) := by
  unfold redacted
  by_cases text : c.isText = true
  · obtain ⟨s, value, type⟩ := exists_of_isText text
    rw [if_pos text, value, d.literal_string type, d.literal_string type]
    exact .ok (h.literals.text s "")
  · rw [if_neg text]
    exact .same fun _ => h.literal

mutual

theorem Expr.render_redacted (h : d.Closes marks) :
    (e : Expr) → SameOutcome (Operand marks) (e.render d) (e.redacted.render d)
  | .constant c => c.literal_redacted h
  | .column path => .same fun _ => h.names.column
  | .function f args => by
    have all := Expr.renderList_redacted h args
    have count : (Expr.redactedAll args).length = args.length := by
      rw [Expr.redactedAll_eq, List.length_map]
    simp only [Expr.redacted, Expr.render, count]
    cases f.checkArguments args.length with
    | error fault => exact .error fault
    | ok _ => exact all.bind fun _ _ related => h.call f related
  | .aggregate f (some e) => (e.render_redacted h).bind fun _ _ related => h.aggregate f related
  | .aggregate f none => by
    simp only [Expr.redacted, Expr.render]
    by_cases counts : f = .count
    · rw [if_pos counts]
      exact h.aggregate f (Operand.word h.proper "*" rfl)
    · rw [if_neg counts]
      exact .error _

theorem Expr.renderList_redacted (h : d.Closes marks) :
    (es : List Expr) → SameOutcome (List.Forall₂ (Operand marks)) (Expr.renderList d es)
      (Expr.renderList d (Expr.redactedAll es))
  | [] => .ok .nil
  | e :: rest =>
    (e.render_redacted h).bind fun _ _ related =>
      (Expr.renderList_redacted h rest).bind fun _ _ others => .ok (.cons related others)

end

theorem Expr.renderOrDefault_redacted (h : d.Closes marks) (type : ColumnType) (e : Expr) :
    SameOutcome (Operand marks) (e.renderOrDefault d type) (e.redacted.renderOrDefault d type) := by
  have rendered := e.render_redacted h
  unfold Expr.renderOrDefault
  rw [Expr.asColumn?_redacted]
  cases e.asColumn? with
  | none => exact rendered
  | some path =>
    have column : SameOutcome (Operand marks) (d.column path) (d.column path) :=
      .same fun _ => h.names.column
    have fallback : SameOutcome (Operand marks) (d.defaultLiteral type) (d.defaultLiteral type) :=
      .same fun _ => h.defaultLiteral
    refine column.bind fun s t related => ?_
    by_cases unknown : type = .unknown
    · rw [if_pos unknown, if_pos unknown]
      exact .error _
    · rw [if_neg unknown, if_neg unknown]
      exact fallback.bind fun _ _ other => .ok (h.calls.coalesce related other)

theorem NamedExpr.render_redacted (h : d.Closes marks) (n : NamedExpr) :
    SameOutcome (Operand marks) (n.render d) (n.redacted.render d) := by
  unfold NamedExpr.render
  rw [NamedExpr.needsAlias_redacted]
  refine (n.expr.render_redacted h).bind fun s t related => ?_
  by_cases needed : n.needsAlias = true
  · rw [if_pos needed, if_pos needed]
    have label : SameOutcome (Operand marks) (d.identifier n.label) (d.identifier n.label) :=
      .same fun _ => h.names.identifier
    exact label.bind fun _ _ name =>
      .ok ((related.append (Alike.glue h.proper " AS " rfl)).append name)
  · rw [if_neg needed, if_neg needed]
    exact .ok related

theorem OrderTerm.render_redacted (h : d.Closes marks) (t : OrderTerm) :
    SameOutcome (Operand marks) (t.render d) (t.redacted.render d) := by
  obtain ⟨e, direction, substitute⟩ := t
  have word : Operand marks direction.sql direction.sql := by
    cases direction with
    | asc => exact Operand.word h.proper "ASC" rfl
    | desc => exact Operand.word h.proper "DESC" rfl
  have ended {s t : String} (related : Operand marks s t) :
      Operand marks (s ++ " " ++ direction.sql) (t ++ " " ++ direction.sql) :=
    (related.append (Alike.glue h.proper " " rfl)).append word
  refine (e.render_redacted h).bind fun s t related => ?_
  cases substitute with
  | none => exact .ok (ended related)
  | some other =>
    exact (other.render_redacted h).bind fun _ _ fallback =>
      .ok (ended (h.calls.coalesce related fallback))

theorem Order.render_redacted (h : d.Closes marks) (order : Order) :
    SameOutcome (Operand marks) (Order.render d order)
      (Order.render d (order.map OrderTerm.redacted)) := by
  have terms : SameOutcome (List.Forall₂ (Operand marks)) (order.mapM (·.render d))
      ((order.map OrderTerm.redacted).mapM (·.render d)) := by
    apply SameOutcome.mapM
    rw [List.forall₂_map_right_iff, List.forall₂_same]
    exact fun t _ => t.render_redacted h
  exact terms.bind fun _ _ related => .ok (Operand.join h.proper ", " rfl related)

end SqlScribe

import SqlScribe.Proofs.Text.Pieces
import SqlScribe.Proofs.Value.Preparation
import SqlScribe.Query.Builder

/-!
# Queries built from checked parts

Paths, constants and result columns that their checked constructors give, the expressions and
filters made of them, and the queries that a sequence of building steps reaches.
-/

namespace SqlScribe

open Text

namespace ColumnPath

/-- Some text names the path. -/
def Checked (c : ColumnPath) : Prop := ∃ s, parse s = .ok c

/-- What the parts of a path are that a text names. -/
structure Proper (c : ColumnPath) : Prop where
  something : c.parts ≠ []
  undotted : ∀ part ∈ c.parts, '.' ∉ part.toList
  trimmed : ∀ part ∈ c.parts, trim part = part
  nonempty : ∀ part ∈ c.parts, part ≠ ""

variable {c : ColumnPath}

theorem Checked.proper (h : c.Checked) : c.Proper := by
  obtain ⟨s, made⟩ := h
  unfold parse at made
  split at made
  · cases made
  · split at made
    · cases made
    · rename_i nonempty
      cases made
      have from_piece : ∀ part ∈ (ofText s).parts, ∃ piece ∈ splitChars '.' s.toList,
          part = trim (.ofList piece) := by
        intro part member
        simp only [ofText, splitAt, List.map_map, List.mem_map, Function.comp] at member
        obtain ⟨piece, inside, rfl⟩ := member
        exact ⟨piece, inside, rfl⟩
      constructor
      · simp [ofText, splitAt, splitChars_ne_nil]
      · intro part member
        obtain ⟨piece, inside, rfl⟩ := from_piece part member
        intro dotted
        rw [trim, String.toList_ofList, String.toList_ofList] at dotted
        exact not_mem_of_mem_splitChars inside (mem_of_mem_strip dotted)
      · intro part member
        obtain ⟨piece, -, rfl⟩ := from_piece part member
        exact trim_trim _
      · rintro part member rfl
        exact nonempty (List.any_eq_true.mpr ⟨"", member, rfl⟩)

theorem Proper.part_visible (h : c.Proper) {part : String} (member : part ∈ c.parts) :
    isAllBlank part = false := by
  rw [Bool.eq_false_iff]
  intro blank
  have trimmed := h.trimmed part member
  rw [trim_eq_empty blank] at trimmed
  exact h.nonempty part member trimmed.symm

theorem Proper.visible (h : c.Proper) : isAllBlank c.fullName = false := by
  obtain ⟨first, rest, parts⟩ := List.exists_cons_of_ne_nil h.something
  have member : first ∈ c.parts := by
    rw [parts]
    exact List.mem_cons_self
  obtain ⟨x, inside, visible⟩ := isAllBlank_eq_false.mp (h.part_visible member)
  rw [fullName, parts]
  exact isAllBlank_eq_false.mpr ⟨x, toList_subset_join "." first rest inside, visible⟩

theorem Proper.name_visible (h : c.Proper) : isAllBlank c.name = false := by
  apply h.part_visible
  rw [name, List.getLast?_eq_some_getLast h.something]
  exact List.getLast_mem h.something

/-- A path is what its own text names. -/
theorem Proper.parse_fullName (h : c.Proper) : parse c.fullName = .ok c := by
  have cut : ofText c.fullName = c := by
    have pieces : splitAt '.' c.fullName = c.parts := splitAt_join h.something h.undotted
    have trims : c.parts.map trim = c.parts :=
      (List.map_congr_left h.trimmed).trans (List.map_id' c.parts)
    rw [ofText, pieces, trims]
  have none_empty : (ofText c.fullName).parts.any (·.isEmpty) = false := by
    rw [cut, List.any_eq_false]
    intro part member empty
    exact h.nonempty part member (String.isEmpty_iff.mp empty)
  rw [parse, h.visible, none_empty, cut]
  rfl

theorem Checked.parse_fullName (h : c.Checked) : parse c.fullName = .ok c :=
  h.proper.parse_fullName

/-- A visible name without points and without blanks at its ends names the column itself. -/
theorem parse_of_plain {name : String} (visible : isAllBlank name = false)
    (undotted : '.' ∉ name.toList) (trimmed : trim name = name) : parse name = .ok ⟨[name]⟩ := by
  have proper : (ColumnPath.mk [name]).Proper := by
    constructor
    · exact List.cons_ne_nil name []
    · exact List.forall_mem_singleton.mpr undotted
    · exact List.forall_mem_singleton.mpr trimmed
    · rintro part member rfl
      obtain rfl := List.mem_singleton.mp member
      cases visible
  have whole : fullName ⟨[name]⟩ = name := by
    simp [fullName, join]
  have parsed := proper.parse_fullName
  rwa [whole] at parsed

end ColumnPath

/-- No floating-point number, or a finite one. -/
def Value.isFinite : Value → Bool
  | float x => x.isFinite
  | _ => true

namespace Constant

/-- A checked constructor gives the constant, and what it holds is finite. -/
inductive Checked : Constant → Prop
  | typed {v : Value} {ty : ColumnType} {c : Constant} (made : Constant.typed v ty = .ok c)
      (finite : c.value.isFinite = true) : Checked c
  | ofValue {v : Value} {c : Constant} (made : ofValue? v = some c)
      (finite : c.value.isFinite = true) : Checked c

variable {c : Constant}

theorem Checked.finite (h : c.Checked) : c.value.isFinite = true := by
  cases h with
  | typed _ finite => exact finite
  | ofValue _ finite => exact finite

theorem typed_eq_ok {v : Value} {ty : ColumnType} (known : ty ≠ .unknown) :
    typed v ty = .ok c ↔ v.convert ty = .ok c.value ∧ c.type = ty := by
  rw [typed, if_neg known, if_neg known]
  cases v.convert ty with
  | error fault => simp [bind, Except.bind]
  | ok w =>
    obtain ⟨value, type⟩ := c
    simp [bind, Except.bind, pure, Except.pure, eq_comm]

/-- A constant that is made has a known type, and its value is converted to it. -/
theorem known_of_typed {v : Value} {ty : ColumnType} (made : typed v ty = .ok c) :
    c.type ≠ .unknown ∧ v.convert c.type = .ok c.value := by
  obtain unknown | known := eq_or_ne ty .unknown
  · have inferred : v.columnType ≠ .unknown := by
      intro nothing
      simp [typed, unknown, nothing] at made
    have same : typed v ty = typed v v.columnType := by
      simp only [typed, unknown, if_true, if_neg inferred]
    rw [same, typed_eq_ok inferred] at made
    rw [made.2]
    exact ⟨inferred, made.1⟩
  · rw [typed_eq_ok known] at made
    rw [made.2]
    exact ⟨known, made.1⟩

theorem belongs_of_typed {v : Value} {ty : ColumnType} (made : typed v ty = .ok c) :
    c.type ≠ .unknown ∧ c.value.belongs c.type = true := by
  obtain ⟨known, converted⟩ := known_of_typed made
  exact ⟨known, Value.belongs_of_convert? (Value.convert_eq_ok.mp converted)⟩

theorem belongs_of_ofValue {v : Value} (made : ofValue? v = some c) :
    c.type ≠ .unknown ∧ c.value.belongs c.type = true := by
  cases v with
  | null => cases made
  | _ =>
    cases made
    exact ⟨nofun, rfl⟩

/-- A checked constant has a known type, and its value belongs to it. -/
theorem Checked.belongs (h : c.Checked) : c.type ≠ .unknown ∧ c.value.belongs c.type = true := by
  cases h with
  | typed made _ => exact belongs_of_typed made
  | ofValue made _ => exact belongs_of_ofValue made

/-- A checked constant is what its own value and type make. -/
theorem Checked.typed_self (h : c.Checked) : Constant.typed c.value c.type = .ok c := by
  obtain ⟨known, belongs⟩ := h.belongs
  exact (typed_eq_ok known).mpr
    ⟨Value.convert_eq_ok.mpr (Value.convert?_of_belongs belongs), rfl⟩

end Constant

namespace Expr

/-- Every path and every constant of the expression is checked. -/
inductive Checked : Expr → Prop
  | constant {c : Constant} (value : c.Checked) : Checked (.constant c)
  | column {path : ColumnPath} (named : path.Checked) : Checked (.column path)
  | function {f : Func} {args : List Expr} (inside : ∀ e ∈ args, Checked e) :
      Checked (.function f args)
  | rows {f : Aggregate} : Checked (.aggregate f none)
  | aggregate {f : Aggregate} {e : Expr} (inside : Checked e) : Checked (.aggregate f (some e))

end Expr

namespace NamedExpr

/-- A checked constructor gives the result column. -/
inductive Checked : NamedExpr → Prop
  | named {e : Expr} {label : String} {n : NamedExpr} (expr : e.Checked)
      (made : NamedExpr.named e label = .ok n) : Checked n
  | ofExpr {e : Expr} {n : NamedExpr} (expr : e.Checked) (made : NamedExpr.ofExpr e = .ok n) :
      Checked n

variable {n : NamedExpr}

theorem Checked.parts (h : n.Checked) : n.expr.Checked ∧ isAllBlank n.label = false := by
  cases h with
  | named expr made =>
    unfold NamedExpr.named at made
    split at made
    · cases made
    · rename_i visible
      cases made
      exact ⟨expr, Bool.eq_false_iff.mpr visible⟩
  | @ofExpr e _ expr made =>
    unfold NamedExpr.ofExpr at made
    cases expr with
    | column path =>
      cases made
      exact ⟨.column path, path.proper.name_visible⟩
    | _ => cases made

/-- A checked result column is what its own expression and alias make. -/
theorem Checked.named_self (h : n.Checked) : NamedExpr.named n.expr n.label = .ok n := by
  rw [NamedExpr.named, if_neg (Bool.eq_false_iff.mp h.parts.2)]

end NamedExpr

/-- Both expressions of a term are checked. -/
structure OrderTerm.Checked (t : OrderTerm) : Prop where
  expr : t.expr.Checked
  substitute : ∀ e, t.substitute = some e → e.Checked

mutual

/-- Every expression and every constant of the filter is checked, and every query in it is built. -/
inductive Filter.Checked : Filter → Prop
  | compare {e : Expr} {op : Comparison} {c : Constant} {nullAsDefault : Bool} (expr : e.Checked)
      (value : c.Checked) : Filter.Checked (.compare e op c nullAsDefault)
  | compareNull {e : Expr} {negated : Bool} (expr : e.Checked) :
      Filter.Checked (.compareNull e negated)
  | oneOf {e : Expr} {cs : List Constant} (expr : e.Checked) (values : ∀ c ∈ cs, c.Checked) :
      Filter.Checked (.oneOf e cs)
  | startsWith {e : Expr} {start : String} (expr : e.Checked) : Filter.Checked (.startsWith e start)
  | contains {e : Expr} {needle : String} (expr : e.Checked) : Filter.Checked (.contains e needle)
  | inSubquery {e : Expr} {d : Draft} {q : Select} (expr : e.Checked) (built : Draft.Reached d)
      (same : d.query = q) : Filter.Checked (.inSubquery e q)
  | between {e : Expr} {low high : Constant} (expr : e.Checked) (lower : low.Checked)
      (upper : high.Checked) : Filter.Checked (.between e low high)
  | constant {b : Bool} : Filter.Checked (.constant b)
  | and {fs : List Filter} (parts : ∀ f ∈ fs, Filter.Checked f) : Filter.Checked (.and fs)
  | or {fs : List Filter} (parts : ∀ f ∈ fs, Filter.Checked f) : Filter.Checked (.or fs)
  | not {f : Filter} (part : Filter.Checked f) : Filter.Checked (.not f)

/-- What a sequence of building steps that succeed comes to, all parts checked. -/
inductive Draft.Reached : Draft → Prop
  | start {table : String} {d : Draft} (made : Draft.start table = .ok d) : Draft.Reached d
  | withAlias {d d' : Draft} {name : String} (before : Draft.Reached d)
      (made : d.withAlias name = .ok d') : Draft.Reached d'
  | withNamed {d d' : Draft} {n : NamedExpr} (before : Draft.Reached d) (column : n.Checked)
      (made : d.withNamed n = .ok d') : Draft.Reached d'
  | withFilter {d : Draft} {f : Filter} (before : Draft.Reached d) (condition : Filter.Checked f) :
      Draft.Reached (d.withFilter f)
  | withGroupBy {d : Draft} {e : Expr} (before : Draft.Reached d) (group : e.Checked) :
      Draft.Reached (d.withGroupBy e)
  | inferGroupBy {d d' : Draft} (before : Draft.Reached d) (made : d.inferGroupBy = .ok d') :
      Draft.Reached d'
  | withHaving {d : Draft} {f : Filter} (before : Draft.Reached d) (condition : Filter.Checked f) :
      Draft.Reached (d.withHaving f)
  | withOrder {d : Draft} {order : Order} (before : Draft.Reached d)
      (terms : ∀ t ∈ order, t.Checked) : Draft.Reached (d.withOrder order)
  | withOrderBy {d : Draft} {e : Expr} {direction : Direction} (before : Draft.Reached d)
      (term : e.Checked) : Draft.Reached (d.withOrderBy e direction)
  | withMaxRows {d d' : Draft} {count : Int64} (before : Draft.Reached d)
      (made : d.withMaxRows count = .ok d') : Draft.Reached d'
  | withDistinct {d : Draft} (before : Draft.Reached d) : Draft.Reached d.withDistinct

end

end SqlScribe

import SqlScribe.Database
import SqlScribe.Proofs.Condition.Filters
import SqlScribe.Proofs.Table.Dependence
import SqlScribe.Proofs.Table.Filling
import SqlScribe.Proofs.Value.Widening

/-!
# Type hints and values

The hint of an expression is the type of the first argument whose type is known; its value comes
from the first argument that is not NULL. Where these two types differ, the value is taken as one of
the hinted type only if the one type widens to the other.
-/

namespace SqlScribe

open SqlScribe.Text

namespace Value

variable {v : Value} {ty : ColumnType}

/-- The type of a value's own kind; that of NULL is not known. -/
def kind (v : Value) : ColumnType := ((Constant.ofValue? v).map Constant.type).getD .unknown

/-- The type of a value that is held under a type: this type if the value belongs to it, and
otherwise that of its kind. -/
def typeUnder (v : Value) (ty : ColumnType) : ColumnType := if v.belongs ty then ty else v.kind

theorem belongs_kind (v : Value) : v.belongs v.kind = true := by
  cases v <;> rfl

theorem belongs_typeUnder (v : Value) (ty : ColumnType) : v.belongs (v.typeUnder ty) = true := by
  unfold typeUnder
  split
  · assumption
  · exact v.belongs_kind

theorem typeUnder_of_belongs (h : v.belongs ty = true) : v.typeUnder ty = ty := if_pos h

theorem isNull_eq_false_iff : v.isNull = false ↔ v ≠ .null := by
  rw [← Bool.not_eq_true, isNull_iff]

/-- The first of some values that is not NULL. -/
def firstGiven (vs : List Value) : Value := (vs.find? (!·.isNull)).getD .null

theorem firstGiven_cons (v : Value) (vs : List Value) :
    firstGiven (v :: vs) = if v.isNull then firstGiven vs else v := by
  cases given : v.isNull <;> simp [firstGiven, given]

end Value

namespace Func

variable {f : Func} {vs : List Value} {v : Value} {ty : ColumnType}

/-- The type of what a function gives, if it is the same for all arguments. -/
def resultType? : Func → Option ColumnType
  | length => some .integer
  | upper | lower | trim | concat | substring => some .string
  | coalesce | abs => none

theorem belongs_of_ofValues (settled : f.resultType? = some ty) (h : f.ofValues vs = .ok v) :
    v.belongs ty = true := by
  unfold ofValues at h
  split at h
  -- the two forms of SUBSTRING read their integers before they give a text
  case h_9 =>
    obtain ⟨_, -, h⟩ := bind_eq_ok_iff.mp h
    cases h
    cases settled
    rfl
  case h_10 =>
    obtain ⟨_, -, h⟩ := bind_eq_ok_iff.mp h
    obtain ⟨_, -, h⟩ := bind_eq_ok_iff.mp h
    cases h
    cases settled
    rfl
  case h_11 => cases h
  all_goals
    cases settled
    try
      cases h
      rfl

theorem belongs_of_eval (settled : f.resultType? = some ty) (h : f.eval vs = .ok v) :
    v.belongs ty = true := by
  unfold eval at h
  split at h
  · rename_i same
    rw [same] at settled
    cases settled
  split at h
  · cases h
    rfl
  · exact belongs_of_ofValues settled h

/-- An absolute value is of the type of the number. -/
theorem abs_of_values (h : abs.ofValues vs = .ok v) :
    ∃ w, vs = [w] ∧ ∀ ty, w.belongs ty = true → v.belongs ty = true := by
  obtain _ | ⟨w, _ | ⟨_, _⟩⟩ := vs
  · cases h
  · refine ⟨w, rfl, fun ty belongs => ?_⟩
    cases w with
    | int n =>
      simp only [ofValues] at h
      split at h
      · cases h
      · cases h
        cases ty <;> first | rfl | cases belongs
    | float x =>
      cases h
      cases ty <;> first | rfl | cases belongs
    | money d =>
      cases h
      cases ty <;> first | rfl | cases belongs
    | _ => cases h
  · cases w <;> cases h

/-- What a function of no type of its own gives is of every type of its first argument that is not
NULL. -/
theorem belongs_of_firstGiven (depends : f.resultType? = none) (h : f.eval vs = .ok v)
    (something : v ≠ .null) :
    Value.firstGiven vs ≠ .null ∧
      ∀ ty, (Value.firstGiven vs).belongs ty = true → v.belongs ty = true := by
  cases f with
  | coalesce =>
    cases h
    exact ⟨something, fun _ => id⟩
  | abs =>
    rw [eval, if_neg nofun] at h
    split at h
    · cases h
      exact absurd rfl something
    · obtain ⟨w, rfl, kept⟩ := abs_of_values h
      have given : w ≠ .null := by
        rintro rfl
        cases h
      rw [Value.firstGiven_cons, if_neg (mt Value.isNull_iff.mp given)]
      exact ⟨given, kept⟩
  | _ => cases depends

end Func

namespace Expr

theorem typeHint_function (f : Func) (args : List Expr) :
    (function f args).typeHint = f.resultType?.getD (firstTypeHint args) := by
  cases f <;> rfl

/-- The hint is the type of every value: constants hold values of their types, and wherever the type
is that of an argument, all arguments have the same one. -/
inductive Uniform : Expr → Prop
  | constant {c : Constant} (belongs : c.value.belongs c.type = true) : Uniform (.constant c)
  | settled {f : Func} {args : List Expr} (own : f.resultType?.isSome = true) :
    Uniform (.function f args)
  | alike {f : Func} {args : List Expr} (inside : ∀ e ∈ args, Uniform e)
    (same : ∀ e ∈ args, e.typeHint = firstTypeHint args) : Uniform (.function f args)

end Expr

namespace Table

variable {t : Table} {row : Row} {q : Select} {e : Expr} {v : Value}

/-- The expression is NULL over a row. -/
def givesNull (t : Table) (row : Row) (e : Expr) : Bool :=
  match t.eval row e with
  | .ok v => v.isNull
  | .error _ => false

mutual

/-- The type of what an expression gives over a row: that of the constant, of the cell or of the
function that the value comes from. -/
def typeOf (t : Table) (row : Row) : Expr → ColumnType
  | .constant c => c.value.typeUnder c.type
  | .column path =>
    match t.position path with
    | .ok i => (row[i]?.getD .null).typeUnder ((t.columns[i]?.map Column.type).getD .unknown)
    | .error _ => .unknown
  | .function f args => f.resultType?.getD (t.chosenType row args)
  | .aggregate _ _ => .unknown

/-- The type of what the first expression gives that is not NULL. -/
def chosenType (t : Table) (row : Row) : List Expr → ColumnType
  | [] => .unknown
  | e :: rest => if t.givesNull row e then t.chosenType row rest else t.typeOf row e

end

/-- An expression gives NULL over a row, or a value of a type that widens to its hint. -/
def suits (t : Table) (row : Row) (e : Expr) : Bool :=
  t.givesNull row e || (t.typeOf row e).widens e.typeHint

theorem givesNull_of_eval (h : t.eval row e = .ok v) : t.givesNull row e = v.isNull := by
  rw [givesNull, h]

theorem suits_iff (evaluated : t.eval row e = .ok v) (something : v ≠ .null) :
    t.suits row e = true ↔ (t.typeOf row e).widens e.typeHint = true := by
  rw [suits, givesNull_of_eval evaluated, Value.isNull_eq_false_iff.mpr something, Bool.false_or]

/-- The first value that is not NULL is that of an argument, and its type is the chosen one. -/
theorem exists_of_evalList {args : List Expr} {vs : List Value}
    (evaluated : t.evalList row args = .ok vs) (something : Value.firstGiven vs ≠ .null) :
    ∃ e ∈ args, t.eval row e = .ok (Value.firstGiven vs) ∧
      t.chosenType row args = t.typeOf row e := by
  induction args generalizing vs with
  | nil =>
    cases evaluated
    exact absurd rfl something
  | cons e rest ih =>
    obtain ⟨v, first, evaluated⟩ := bind_eq_ok_iff.mp evaluated
    obtain ⟨others, later, evaluated⟩ := bind_eq_ok_iff.mp evaluated
    cases evaluated
    rw [Value.firstGiven_cons] at something ⊢
    rw [chosenType, givesNull_of_eval first]
    split at something
    · rename_i nothing
      obtain ⟨e', member, source⟩ := ih later something
      rw [if_pos nothing, if_pos nothing]
      exact ⟨e', List.mem_cons_of_mem e member, source⟩
    · rename_i given
      rw [if_neg given, if_neg given]
      exact ⟨e, List.mem_cons_self, first, rfl⟩

/-- Where the type is that of an argument, so is the value, up to its sign. -/
theorem exists_source {f : Func} {args : List Expr} (depends : f.resultType? = none)
    (evaluated : t.eval row (.function f args) = .ok v) (something : v ≠ .null) :
    ∃ e ∈ args, ∃ w, t.eval row e = .ok w ∧ w ≠ .null ∧
      t.typeOf row (.function f args) = t.typeOf row e ∧
      ∀ ty, w.belongs ty = true → v.belongs ty = true := by
  rw [eval] at evaluated
  obtain ⟨_, -, evaluated⟩ := bind_eq_ok_iff.mp evaluated
  obtain ⟨vs, arguments, evaluated⟩ := bind_eq_ok_iff.mp evaluated
  obtain ⟨given, kept⟩ := Func.belongs_of_firstGiven depends evaluated something
  obtain ⟨e, member, source, type⟩ := exists_of_evalList arguments given
  refine ⟨e, member, _, source, given, ?_, kept⟩
  rw [typeOf, depends]
  exact type

/-- What stands in a column of a row that fits belongs to the type of the column. -/
theorem exists_of_eval_column {path : ColumnPath} (fits : Row.Fits t.columns row)
    (evaluated : t.eval row (.column path) = .ok v) :
    ∃ c, (t.columns.find? fun c => sameName c.name path.name) = some c ∧
      v.belongs c.type = true := by
  obtain ⟨i, found, evaluated⟩ := bind_eq_ok_iff.mp evaluated
  cases evaluated
  obtain ⟨c, column, first⟩ := position_eq_ok found
  obtain ⟨length, cells⟩ := List.forall₂_iff_get.mp fits
  obtain ⟨inside, rfl⟩ := List.getElem?_eq_some_iff.mp column
  have cell := cells i (by omega) inside
  rw [List.get_eq_getElem, List.get_eq_getElem] at cell
  refine ⟨_, first, ?_⟩
  rw [List.getElem?_eq_getElem, Option.getD_some]
  exact cell

mutual

theorem belongs_typeOf :
    (e : Expr) → ∀ v, t.eval row e = .ok v → v.belongs (t.typeOf row e) = true
  | .constant c, _, evaluated => by
    cases evaluated
    exact c.value.belongs_typeUnder c.type
  | .column path, v, evaluated => by
    obtain ⟨i, found, evaluated⟩ := bind_eq_ok_iff.mp evaluated
    cases evaluated
    rw [typeOf, found]
    exact Value.belongs_typeUnder _ _
  | .function f args, v, evaluated => by
    by_cases something : v = .null
    · rw [something]
      rfl
    cases own : f.resultType? with
    | some ty =>
      obtain ⟨_, -, evaluated⟩ := bind_eq_ok_iff.mp evaluated
      obtain ⟨vs, -, evaluated⟩ := bind_eq_ok_iff.mp evaluated
      rw [typeOf, own]
      exact Func.belongs_of_eval own evaluated
    | none =>
      obtain ⟨e, member, w, source, -, type, kept⟩ := exists_source own evaluated something
      rw [type]
      exact kept _ (belongs_typeOf_of_mem args e member w source)
  | .aggregate _ _, _, evaluated => by cases evaluated

theorem belongs_typeOf_of_mem : (es : List Expr) → ∀ e ∈ es, ∀ v, t.eval row e = .ok v →
    v.belongs (t.typeOf row e) = true
  | [] => List.forall_mem_nil _
  | e :: rest => List.forall_mem_cons.mpr ⟨belongs_typeOf e, belongs_typeOf_of_mem rest⟩

end

theorem typeOf_of_settled {f : Func} {args : List Expr} {ty : ColumnType}
    (own : f.resultType? = some ty) :
    t.typeOf row (.function f args) = (Expr.function f args).typeHint := by
  rw [typeOf, Expr.typeHint_function, own, Option.getD_some, Option.getD_some]

/-- The value of an expression of a uniform type is of the hinted type. -/
theorem typeOf_of_uniform (uniform : e.Uniform) :
    ∀ v, t.eval row e = .ok v → v ≠ .null → t.typeOf row e = e.typeHint := by
  induction uniform with
  | constant belongs =>
    intro _ _ _
    exact Value.typeUnder_of_belongs belongs
  | settled own =>
    intro _ _ _
    obtain ⟨ty, own⟩ := Option.isSome_iff_exists.mp own
    exact typeOf_of_settled own
  | @alike f args _ same ih =>
    intro v evaluated something
    cases own : f.resultType? with
    | some ty => exact typeOf_of_settled own
    | none =>
      obtain ⟨e, member, w, source, given, type, -⟩ := exists_source own evaluated something
      rw [type, Expr.typeHint_function, own, Option.getD_none, ← same e member]
      exact ih e member w source given

theorem suits_of_uniform (uniform : e.Uniform) (evaluated : t.eval row e = .ok v) :
    t.suits row e = true := by
  by_cases something : v = .null
  · rw [suits, givesNull_of_eval evaluated, something]
    rfl
  · rw [suits_iff evaluated something, typeOf_of_uniform uniform v evaluated something]
    exact ColumnType.widens_refl _

/-- A value converts to the hinted type if the hint suits. -/
theorem convert?_of_hint (evaluated : t.eval row e = .ok v)
    (hinted : t.suits row e = true ∨ e.Uniform) : (v.convert? e.typeHint).isSome = true := by
  have suited : t.suits row e = true := hinted.elim id fun uniform =>
    suits_of_uniform uniform evaluated
  by_cases something : v = .null
  · rw [something]
    rfl
  · have wide := (suits_iff evaluated something).mp suited
    exact Value.convert?_of_widens (belongs_typeOf e v evaluated) wide

/-- What is projected from a row that fits converts to the types of the result columns, if the hints
suit. -/
theorem convert?_of_project (fits : Row.Fits t.columns row) {r : Row}
    (projected : t.project q row = .ok r)
    (hinted : ∀ n ∈ q.columns.items, n.expr.asColumn? = none →
      t.suits row n.expr = true ∨ n.expr.Uniform) :
    List.Forall₂ (fun v ty => (v.convert? ty).isSome = true) r (q.resultTypes t.columns) := by
  unfold project at projected
  unfold QueryOf.resultTypes
  split at projected
  · rename_i whole
    cases projected
    rw [if_pos whole, List.forall₂_map_right_iff]
    exact fits.imp fun v c belongs => by rw [Value.convert?_of_belongs belongs, Option.isSome_some]
  · rename_i listed
    rw [if_neg listed, List.forall₂_map_right_iff]
    have cells := (List.forall₂_and_left _ _).mpr ⟨hinted, mapM_eq_ok_iff.mp projected⟩
    refine (cells.imp fun n v cell => ?_).flip
    obtain ⟨hinted, evaluated⟩ := cell
    obtain ⟨e, label⟩ := n
    cases e with
    | column path =>
      obtain ⟨c, first, belongs⟩ := exists_of_eval_column fits evaluated
      change (v.convert? (((t.columns.find? fun c => sameName c.name path.name).map
        Column.type).getD .unknown)).isSome = true
      rw [first, Option.map_some, Option.getD_some, Value.convert?_of_belongs belongs,
        Option.isSome_some]
    | _ => exact convert?_of_hint evaluated (hinted rfl)

end Table

theorem Database.correct_eq_ok {v w : Value} {ty : ColumnType} :
    correct ty v = .ok w ↔ v.convert? ty = some w := by
  unfold correct
  split
  · rename_i unknown
    have whole : v.convert? .unknown = some v := Value.convert?_of_belongs (by cases v <;> rfl)
    rw [unknown, whole, Except.ok.injEq, Option.some.injEq]
  · exact Value.convert_eq_ok

/-- A row is corrected if each of its cells converts. -/
theorem Database.exists_correctRow {types : List ColumnType} {row : Row}
    (converts : List.Forall₂ (fun v ty => (v.convert? ty).isSome = true) row types) :
    ∃ corrected, correctRow types row = .ok corrected := by
  induction converts with
  | nil => exact ⟨[], rfl⟩
  | cons first _ ih =>
    obtain ⟨w, converted⟩ := Option.isSome_iff_exists.mp first
    obtain ⟨others, later⟩ := ih
    refine ⟨w :: others, ?_⟩
    rw [correctRow, correct_eq_ok.mpr converted, later]
    rfl

namespace Table

/-- A table of one column with one cell. -/
def single (type : ColumnType) (v : Value) : Table := ⟨"T", [.of "A" type], [[v]]⟩

/-- The only cell of a table of one column, or else a NULL of some type. -/
def orNull (type : ColumnType) : Expr :=
  .function .coalesce [.column ⟨["A"]⟩, .constant ⟨.null, type⟩]

/-- The query for one expression over that table. -/
def singleQuery (e : Expr) : Select where
  table := "T"
  tableAlias := none
  columns := ⟨[⟨e, "B"⟩]⟩
  filter := none
  groupBy := []
  having := none
  order := none
  maxRows := 0
  distinct := false

variable {a b : ColumnType}

theorem single_filled (known : a ≠ .unknown) (belongs : v.belongs a = true) :
    (single a v).Filled := by
  have made : create "T" [.of "A" a] = .ok ⟨"T", [.of "A" a], []⟩ := by
    cases a with
    | unknown => exact absurd rfl known
    | _ => rfl
  refine @Filled.push _ _ [v] (.create made) ?_
  have converted : convertRow [.of "A" a] [v] = .ok [v] :=
    mapM_eq_ok_iff.mpr
      (.cons (Value.convert_eq_ok.mpr (Value.convert?_of_belongs belongs)) .nil)
  rw [push, if_neg (by simp), converted]
  rfl

theorem typeHint_orNull (b : ColumnType) : (orNull b).typeHint = b := by
  cases b <;> rfl

theorem position_single : (single a v).position ⟨["A"]⟩ = .ok 0 := by
  simp [position, single, Column.of, ColumnPath.isQualified, ColumnPath.name, sameName_refl]

theorem typeOf_orNull (belongs : v.belongs a = true) (something : v ≠ .null) :
    (single a v).typeOf [v] (orNull b) = a := by
  have cell : (single a v).eval [v] (.column ⟨["A"]⟩) = .ok v := by
    rw [eval, position_single]
    rfl
  have given : (single a v).givesNull [v] (.column ⟨["A"]⟩) = false := by
    rw [givesNull_of_eval cell]
    exact Value.isNull_eq_false_iff.mpr something
  have type : (single a v).typeOf [v] (.column ⟨["A"]⟩) = a := by
    rw [typeOf, position_single]
    exact Value.typeUnder_of_belongs belongs
  rw [orNull, typeOf, chosenType, given, type]
  rfl

theorem eval_orNull (something : v ≠ .null) : (single a v).eval [v] (orNull b) = .ok v := by
  have given := Value.isNull_eq_false_iff.mpr something
  simp [orNull, eval, evalList, position_single, Func.eval, Func.checkArguments, Func.takes,
    Func.least, Func.most, bind, Except.bind, pure, Except.pure, given]

theorem select_single {w : Value} (plain : e.containsAggregate = false)
    (evaluated : (single a v).eval [v] e = .ok w) :
    (single a v).select (singleQuery e) = .ok ⟨["B"], [[w]]⟩ := by
  have checked : (single a v).checkQuery (singleQuery e) = .ok () := by
    simp [checkQuery, singleQuery, single, sameName_refl, Projection.aggregates, plain]
  have matched : (single a v).matching (singleQuery e) [[v]] = .ok [([], [v])] := rfl
  have projected : (single a v).project (singleQuery e) [v] = .ok [w] :=
    mapM_eq_ok_iff.mpr (.cons evaluated .nil)
  have arranged : ([([], [v])] : List (SortKey × Row)).mapM (fun x =>
      (single a v).project (singleQuery e) x.2) = .ok [[w]] :=
    mapM_eq_ok_iff.mpr (.cons projected .nil)
  exact bind_eq_ok_iff.mpr ⟨(), checked, bind_eq_ok_iff.mpr ⟨_, matched,
    bind_eq_ok_iff.mpr ⟨_, arranged, rfl⟩⟩⟩

theorem correctRow_single (known : b ≠ .unknown) (refused : v.convert? b = none) :
    Database.correctRow ((singleQuery (orNull b)).resultTypes (single a v).columns) [v] =
      .error (.invalid (.conversion v b)) := by
  have hint : (singleQuery (orNull b)).resultTypes (single a v).columns = [b] :=
    congrArg ([·]) (typeHint_orNull b)
  have wrong : Database.correct b v = .error (.invalid (.conversion v b)) := by
    rw [Database.correct, if_neg known]
    change v.convert b = _
    rw [Value.convert, refused]
  rw [hint, Database.correctRow, wrong]
  rfl

/-- What an expression gives converts to the hinted type if the hint suits, and always if the type
of the expression is uniform; then results are corrected. A hint suits exactly if all values of the
type that the value has convert. Where one type does not widen to another, a value can be of the one
type and its hint the other, and then the result is refused. -/
theorem convert?_typeHint (t : Table) :
    (∀ (row : Row) (e : Expr) (v : Value), t.eval row e = .ok v →
      (t.suits row e = true ∨ e.Uniform → (v.convert? e.typeHint).isSome = true) ∧
      v.belongs (t.typeOf row e) = true ∧
      (v ≠ .null → t.typeOf row e ≠ .unknown → (t.suits row e = true ↔
        ∀ w : Value, w.belongs (t.typeOf row e) = true →
          (w.convert? e.typeHint).isSome = true))) ∧
    (∀ (q : Select) (result : ResultSet), t.Filled → t.select q = .ok result →
      (∀ n ∈ q.columns.items, n.expr.asColumn? = none → ∀ row ∈ t.rows,
        t.ruling q row = .ok (some true) → t.suits row n.expr = true ∨ n.expr.Uniform) →
      ∀ r ∈ result.rows, ∃ corrected,
        Database.correctRow (q.resultTypes t.columns) r = .ok corrected) ∧
    ∀ a b : ColumnType, a ≠ .unknown → b ≠ .unknown → a.widens b = false →
      ∃ (u : Table) (q : Select) (result : ResultSet) (e : Expr) (v : Value),
        u.Filled ∧ u.rows = [[v]] ∧ u.eval [v] e = .ok v ∧ u.typeOf [v] e = a ∧ e.typeHint = b ∧
        q.columns.items.map (·.expr) = [e] ∧ u.select q = .ok result ∧ result.rows = [[v]] ∧
        Database.correctRow (q.resultTypes u.columns) [v] =
          .error (.invalid (.conversion v b)) := by
  refine ⟨fun row e v evaluated => ?_, fun q result filled answered hinted r member => ?_,
    fun a b known known' narrow => ?_⟩
  · refine ⟨convert?_of_hint evaluated, belongs_typeOf e v evaluated, fun something known => ?_⟩
    rw [suits_iff evaluated something, ColumnType.widens_iff known]
  · obtain ⟨row, stored, ruled, projected⟩ := exists_of_mem_select answered member
    have converts := convert?_of_project (filled.fits row stored) projected
      fun n item plain => hinted n item plain row stored ruled
    exact Database.exists_correctRow converts
  · have belongs := ColumnType.belongs_stray a
    have refused := ColumnType.convert?_stray known narrow
    have something : a.stray ≠ .null := by
      intro nothing
      rw [nothing] at refused
      cases refused
    exact ⟨single a a.stray, singleQuery (orNull b), ⟨["B"], [[a.stray]]⟩, orNull b, a.stray,
      single_filled known belongs, rfl, eval_orNull something, typeOf_orNull belongs something,
      typeHint_orNull b, rfl, select_single rfl (eval_orNull something),
      rfl, correctRow_single known' refused⟩

/-- A number of the table of members, or else a word. -/
def idOrWord : Expr := .function .coalesce [.column ⟨["Id"]⟩, .constant ⟨.string "none", .string⟩]

/-- A name of the table of members, or else a number. -/
def nameOrNine : Expr := .function .coalesce [.column ⟨["Name"]⟩, .constant (.ofInt 9)]

/-- A number can be taken as a word. A result of upper-case letters is corrected, and a text that
counts as a number is refused. -/
theorem convert?_typeHint_members :
    ((Value.int 7).convert? idOrWord.typeHint).isSome = true ∧
    (∃ corrected, Database.correctRow
      ((singleQuery (.function .upper [.column ⟨["A"]⟩])).resultTypes [.of "A" .string])
      [.string "BOLT"] = .ok corrected) ∧
    ∃ (t : Table) (q : Select) (v : Value), t.Filled ∧
      Database.correctRow (q.resultTypes t.columns) [v] =
        .error (.invalid (.conversion v .integer)) := by
  obtain ⟨values, -, refusals⟩ := convert?_typeHint members
  obtain ⟨-, results, -⟩ := convert?_typeHint (single .string (.string "bolt"))
  refine ⟨(values [.int 7, .null] idOrWord (.int 7) (by decide +kernel)).1
    (.inl (by decide +kernel)), ?_, ?_⟩
  · have answered : (single .string (.string "bolt")).select
        (singleQuery (.function .upper [.column ⟨["A"]⟩])) = .ok ⟨["B"], [[.string "BOLT"]]⟩ :=
      select_single rfl (by decide +kernel)
    refine results _ _ (single_filled (by decide) rfl) answered ?_ _ List.mem_cons_self
    intro n item _ _ _ _
    obtain rfl := List.mem_singleton.mp item
    exact .inr (.settled rfl)
  · obtain ⟨t, q, _, _, v, filled, _, _, _, _, _, _, _, refused⟩ :=
      refusals .string .integer (by decide) (by decide) (by decide)
    exact ⟨t, q, v, filled, refused⟩

/-- The name is not NULL, so the number is passed over, but it gives the hint. -/
theorem hint_refused :
    nameOrNine.containsAggregate = false ∧ nameOrNine.typeHint = .integer ∧
    members.eval [.int 7, .string "bolt"] nameOrNine = .ok (.string "bolt") ∧
    (Value.string "bolt").convert? .integer = none := by
  decide +kernel

end Table

end SqlScribe

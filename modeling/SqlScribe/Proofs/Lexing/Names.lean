import SqlScribe.Proofs.Lexing.Dialects
import SqlScribe.Proofs.Query.Checked

/-!
# Names and paths

A column is named by one identifier where it is listed, and by a path where it stands in a
condition. Between marks different names are written differently, and a path of many parts is
written differently from any single name: it has more opening marks.
-/

namespace SqlScribe

open Text Lexing

namespace Lexing.NameMarks

variable {m : NameMarks} {c d : Char} {xs ys : List Char}

/-- What a character is written as can be told from what follows it. -/
theorem escape_append_inj (proper : m.Proper) (same : m.escape c ++ xs = m.escape d ++ ys) :
    c = d ∧ xs = ys := by
  have differ := proper.closing_ne_escape
  unfold escape at same
  grind

theorem escape_ne_nil (m : NameMarks) (c : Char) : m.escape c ≠ [] := by
  unfold escape
  grind

/-- Different names are written differently. -/
theorem quote_injective (proper : m.Proper) : Function.Injective m.quote := by
  intro cs ds same
  replace same : cs.flatMap m.escape = ds.flatMap m.escape := by
    simpa [quote] using same
  induction cs generalizing ds with
  | nil =>
    cases ds with
    | nil => rfl
    | cons d rest => simp [escape_ne_nil] at same
  | cons c rest ih =>
    cases ds with
    | nil => simp [escape_ne_nil] at same
    | cons d others =>
      rw [List.flatMap_cons, List.flatMap_cons] at same
      obtain ⟨rfl, later⟩ := escape_append_inj proper same
      rw [ih later]

/-- How often the opening mark is written for each mark in a name and around it. -/
def repeats (m : NameMarks) : Nat := if m.opening = m.closing then 2 else 1

theorem count_escape (doubles : m.escapes = false) (c : Char) :
    (m.escape c).count m.opening = if c = m.opening then m.repeats else 0 := by
  unfold escape repeats
  grind

/-- Every opening mark in a name is written so often, and so are those around it. -/
theorem count_quote (doubles : m.escapes = false) (cs : List Char) :
    (m.quote cs).count m.opening = (cs.count m.opening + 1) * m.repeats := by
  have inside : (cs.flatMap m.escape).count m.opening = cs.count m.opening * m.repeats := by
    induction cs with
    | nil => simp
    | cons c rest ih =>
      rw [List.flatMap_cons, List.count_append, ih, count_escape doubles, List.count_cons,
        Nat.add_mul, Nat.add_comm]
      congr 1
      simp only [beq_iff_eq]
      split <;> simp
  rw [quote, List.count_cons_self, List.count_append, inside, Nat.add_mul, Nat.one_mul, repeats]
  by_cases same : m.opening = m.closing
  · simp [same]
  · rw [if_neg same, List.count_eq_zero.mpr (List.mem_singleton.not.mpr same)]

end Lexing.NameMarks

/-- The name has one part and no blanks at its ends, so that it is its own path. -/
def ColumnPath.Plain (name : String) : Prop := '.' ∉ name.toList ∧ trim name = name
deriving Decidable

namespace ColumnPath

theorem eq_ofText_of_parse {name : String} {path : ColumnPath} (parsed : parse name = .ok path) :
    isAllBlank name = false ∧ path = ofText name := by
  unfold parse at parsed
  split at parsed
  · cases parsed
  · rename_i visible
    split at parsed
    · cases parsed
    · exact ⟨Bool.eq_false_iff.mpr visible, (Except.ok.inj parsed).symm⟩

theorem length_ofText (name : String) :
    (ofText name).parts.length = name.toList.count '.' + 1 := by
  rw [ofText, List.length_map, splitAt, List.length_map, length_splitChars]

/-- Cutting and trimming loses points and blanks only. -/
theorem count_ofText {c : Char} (visible : isBlank c = false) (other : c ≠ '.') (name : String) :
    ((ofText name).parts.map (·.toList.count c)).sum = name.toList.count c := by
  have each (piece : List Char) :
      (trim (String.ofList piece)).toList.count c = piece.count c := by
    rw [trim, String.toList_ofList, String.toList_ofList, count_strip visible]
  simp only [ofText, splitAt, List.map_map, Function.comp_def, each]
  exact count_splitChars other name.toList

theorem ofText_of_undotted {name : String} (undotted : '.' ∉ name.toList) :
    ofText name = ⟨[trim name]⟩ := by
  rw [ofText, splitAt, splitChars_of_not_mem undotted]
  simp

/-- A plain name that is a path is the path of its own. -/
theorem Plain.path_eq {name : String} (plain : Plain name) {path : ColumnPath}
    (parsed : parse name = .ok path) : path = ⟨[name]⟩ := by
  obtain ⟨undotted, trimmed⟩ := plain
  rw [(eq_ofText_of_parse parsed).2, ofText_of_undotted undotted, trimmed]

theorem visible_of_isWordChar {c : Char} (letter : Identifier.isWordChar c = true) :
    isBlank c = false := by
  -- The first and the last of them are `#` and `z`.
  have range : '#' ≤ c ∧ c ≤ 'z' := by
    have among {low high : Char} (least : low ≤ c) (most : c ≤ high) (first : '#' ≤ low)
        (last : high ≤ 'z') : '#' ≤ c ∧ c ≤ 'z' :=
      ⟨Char.le_trans first least, Char.le_trans most last⟩
    simp only [Identifier.isWordChar, Char.isAlphanum, Bool.or_eq_true, beq_iff_eq] at letter
    obtain ((((alpha | digit) | rfl) | rfl) | rfl) | rfl := letter
    · obtain upper | lower := Bool.or_eq_true_iff.mp alpha
      · obtain ⟨least, most⟩ : 'A' ≤ c ∧ c ≤ 'Z' := of_decide_eq_true upper
        exact among least most (by decide) (by decide)
      · obtain ⟨least, most⟩ := Bool.and_eq_true_iff.mp lower
        exact among (of_decide_eq_true least) (of_decide_eq_true most) (by decide) (by decide)
    · obtain ⟨least, most⟩ := Bool.and_eq_true_iff.mp digit
      exact among (of_decide_eq_true least) (of_decide_eq_true most) (by decide) (by decide)
    all_goals decide
  obtain ⟨least, most⟩ : 35 ≤ c.toNat ∧ c.toNat ≤ 122 := range
  simp only [isBlank, Bool.or_eq_false_iff, Bool.and_eq_false_iff, decide_eq_false_iff_not,
    beq_eq_false_iff_ne]
  omega

/-- In a word there is neither a point nor a blank. -/
theorem plain_of_isWord {name : String} (word : Identifier.isWord name = true) : Plain name := by
  have letters := List.all_eq_true.mp (Bool.and_eq_true_iff.mp word).1
  have visible : ∀ c ∈ name.toList, isBlank c = false := fun c member =>
    visible_of_isWordChar (letters c member)
  constructor
  · intro dotted
    cases letters '.' dotted
  · rw [trim, strip_eq_self, String.ofList_toList]
    · exact fun c first => visible c (List.mem_of_mem_head? first)
    · exact fun c last => visible c (List.mem_of_mem_getLast? last)

end ColumnPath

namespace Quoting

open Dialect

variable {quoting : Quoting} {name t t' : String} {path : ColumnPath}

/-- A path of one part is written as the part is. -/
theorem write_of_joinedPath (joined : joinedPath quoting.write ⟨[name]⟩ = .ok t) :
    quoting.write name = .ok t := by
  obtain ⟨ts, each, rfl⟩ := map_eq_ok_iff.mp joined
  obtain ⟨u, _, written, none, rfl⟩ :=
    List.forall₂_cons_left_iff.mp (mapM_eq_ok_iff.mp each)
  obtain rfl := List.forall₂_nil_left_iff.mp none
  simpa [join] using written

/-- Each name has its own opening marks. -/
theorem count_written {m : NameMarks} (own : quoting.nameMarks = some m) {names ts : List String}
    (each : List.Forall₂ (fun name t => quoting.write name = .ok t) names ts) :
    (ts.map (·.toList.count m.opening)).sum =
      ((names.map (·.toList.count m.opening)).sum + names.length) * m.repeats := by
  induction each with
  | nil => simp
  | cons first _ ih =>
    obtain ⟨m', same, doubles, spelled⟩ | ⟨rfl, -⟩ := write_eq_ok first
    · obtain rfl : m = m' := Option.some.inj (own.symm.trans same)
      simp only [List.map_cons, List.sum_cons, ih, spelled, NameMarks.count_quote doubles,
        List.length_cons, Nat.add_mul]
      omega
    · cases own

theorem opening_visible {m : NameMarks} (own : quoting.nameMarks = some m) :
    isBlank m.opening = false ∧ m.opening ≠ '.' := by
  cases quoting <;> cases own <;> decide

/-- A path of many parts has more opening marks than its text as a name. -/
theorem undotted_of_joinedPath {m : NameMarks} (own : quoting.nameMarks = some m)
    (doubles : m.escapes = false) (spelled : t.toList = m.quote name.toList)
    (joined : joinedPath quoting.write (.ofText name) = .ok t) : '.' ∉ name.toList := by
  obtain ⟨visible, other⟩ := opening_visible own
  obtain ⟨ts, each, rfl⟩ := map_eq_ok_iff.mp joined
  have no_point : m.opening ∉ ".".toList := List.mem_singleton.not.mpr other
  have once := congrArg (List.count m.opening) spelled
  rw [count_join no_point, count_written own (mapM_eq_ok_iff.mp each),
    ColumnPath.count_ofText visible other, ColumnPath.length_ofText,
    NameMarks.count_quote doubles] at once
  have some_mark : 0 < m.repeats := by
    unfold NameMarks.repeats
    split <;> decide
  have counts := Nat.eq_of_mul_eq_mul_right some_mark once
  rw [← List.count_eq_zero]
  omega

/-- A path is written as its text is written as a name exactly if it is a plain name. -/
theorem joinedPath_eq_iff (named : quoting.write name = .ok t)
    (parsed : ColumnPath.parse name = .ok path) (joined : joinedPath quoting.write path = .ok t') :
    t' = t ↔ ColumnPath.Plain name := by
  constructor
  · rintro rfl
    obtain rfl := (ColumnPath.eq_ofText_of_parse parsed).2
    obtain ⟨m, own, doubles, spelled⟩ | ⟨-, -, word⟩ := write_eq_ok named
    · have undotted := undotted_of_joinedPath own doubles spelled joined
      rw [ColumnPath.ofText_of_undotted undotted] at joined
      have again := write_of_joinedPath joined
      obtain ⟨m', same, -, spelled'⟩ | ⟨rfl, -⟩ := write_eq_ok again
      · obtain rfl : m = m' := Option.some.inj (own.symm.trans same)
        have one := NameMarks.quote_injective (quoting.proper_nameMarks m own)
          (spelled'.symm.trans spelled)
        exact ⟨undotted, String.toList_inj.mp one⟩
      · cases own
    · exact ColumnPath.plain_of_isWord word
  · intro plain
    obtain rfl := plain.path_eq parsed
    have again := write_of_joinedPath joined
    exact Except.ok.inj (again.symm.trans named)

end Quoting

namespace Dialect

variable {d : Dialect} {name t t' : String} {path : ColumnPath}

/-- In a condition a column has the name that it has where it is listed. -/
def NamesAlike (d : Dialect) (name : String) : Prop :=
  ∃ t path, d.identifier name = .ok t ∧ ColumnPath.parse name = .ok path ∧ d.column path = .ok t

theorem namesAlike_iff (named : d.identifier name = .ok t)
    (parsed : ColumnPath.parse name = .ok path) (column : d.column path = .ok t') :
    d.NamesAlike name ↔ t' = t := by
  constructor
  · rintro ⟨u, path', named', parsed', column'⟩
    obtain rfl := Except.ok.inj (parsed.symm.trans parsed')
    obtain rfl := Except.ok.inj (column.symm.trans column')
    exact Except.ok.inj (named'.symm.trans named)
  · rintro rfl
    exact ⟨_, path, named, parsed, column⟩

/-- Names are quoted in one of the usual ways and paths part by part, or the dialect is built in. -/
inductive UsualNames (d : Dialect) : Prop
  | quoted (quoting : Quoting) (identifier : d.identifier = quoting.write)
    (column : d.column = joinedPath quoting.write)
  | builtin (b : Builtin) (same : d = b.dialect)

theorem DataView.column_eq_iff (named : DataView.identifier name = .ok t)
    (parsed : ColumnPath.parse name = .ok path) (column : DataView.column path = .ok t') :
    t' = t ↔ ColumnPath.Plain name := by
  unfold DataView.column at column
  split at column
  · cases column
  · rename_i unqualified
    constructor
    · rintro rfl
      obtain rfl := (ColumnPath.eq_ofText_of_parse parsed).2
      have undotted : '.' ∉ name.toList := by
        rw [← List.count_eq_zero]
        simp only [ColumnPath.isQualified, ColumnPath.length_ofText,
          decide_eq_true_eq] at unqualified
        omega
      rw [ColumnPath.ofText_of_undotted undotted] at column
      have spelled := toList_of_identifier named
      rw [toList_of_identifier column] at spelled
      have one := NameMarks.quote_injective (proper_nameMarks _ rfl) spelled
      exact ⟨undotted, String.toList_inj.mp one⟩
    · intro plain
      obtain rfl := plain.path_eq parsed
      exact Except.ok.inj (column.symm.trans named)

/-- Usually exactly the plain names are the same in conditions. -/
theorem UsualNames.namesAlike_iff (usual : d.UsualNames) (named : d.identifier name = .ok t)
    (parsed : ColumnPath.parse name = .ok path) (column : d.column path = .ok t') :
    d.NamesAlike name ↔ ColumnPath.Plain name := by
  rw [Dialect.namesAlike_iff named parsed column]
  have quoted (quoting : Quoting) (identifier : d.identifier = quoting.write)
      (joined : d.column = joinedPath quoting.write) : t' = t ↔ ColumnPath.Plain name := by
    rw [identifier] at named
    rw [joined] at column
    exact Quoting.joinedPath_eq_iff named parsed column
  cases usual with
  | quoted quoting identifier joined => exact quoted quoting identifier joined
  | builtin b same =>
    subst same
    cases b with
    | dataView => exact DataView.column_eq_iff named parsed column
    | mssql | access => exact quoted .bracket rfl rfl
    | postgres | sqlite => exact quoted .quote rfl rfl
    | db2 => exact quoted .plain rfl rfl

end Dialect

end SqlScribe

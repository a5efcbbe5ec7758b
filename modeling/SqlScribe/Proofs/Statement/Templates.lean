import SqlScribe.Proofs.Condition.Emission
import SqlScribe.Proofs.Statement.Refilling
import SqlScribe.Proofs.Value.Preparation
import SqlScribe.Statement.Update

/-!
# Prepared UPDATEs

A prepared UPDATE binds, for whatever values, the statement that is written out for them, whether or
not there is a template. The values of keys are converted before they are written out and are bound
as they are given where there is a template; the dialect has to make the same of both.
-/

namespace SqlScribe

open Emit

namespace Dialect

variable {d : Dialect}

theorem prepares_converted (d : Dialect)
    (prepares : d.prepare = Value.convert ∨ (∃ b : Builtin, d = b.dialect) ∨ d.PreparesConverted) :
    d.PreparesConverted := by
  obtain prepare | ⟨b, rfl⟩ | prepares := prepares
  · exact preparesConverted_of_convert prepare
  · exact b.preparesConverted
  · exact prepares

/-- Values become the parameters that they become when they are converted first. -/
theorem mapM_parameter_converted (prepares : d.PreparesConverted) {columns : List Column}
    (known : ∀ c ∈ columns, c.type ≠ .unknown) (values : List Value) (params : List Param) :
    (cellsOf columns values).mapM d.parameter = .ok params ↔
      ∃ converted, (cellsOf columns values).mapM (fun cell => cell.1.convert cell.2) =
          .ok converted ∧
        (cellsOf columns converted).mapM d.parameter = .ok params := by
  simp only [mapM_eq_ok_iff]
  induction columns generalizing values params with
  | nil =>
    simp only [cellsOf, List.zip_nil_left, List.map_nil, List.forall₂_nil_left_iff]
    simp
  | cons c rest ih =>
    have known_rest : ∀ c ∈ rest, c.type ≠ .unknown := fun c member =>
      known c (List.mem_cons_of_mem _ member)
    cases values with
    | nil =>
      simp only [cellsOf, List.zip_nil_right, List.map_nil, List.forall₂_nil_left_iff]
      simp
    | cons v others =>
      simp only [cellsOf, List.zip_cons_cons, List.map_cons, List.forall₂_cons_left_iff] at ih ⊢
      constructor
      · rintro ⟨q, params, first, later, rfl⟩
        obtain ⟨prepared, type⟩ := parameter_eq_ok_iff.mp first
        obtain ⟨u, converted, again⟩ := (prepares v _ _ (known c List.mem_cons_self)).mp prepared
        obtain ⟨us, all, bound⟩ := (ih known_rest others params).mp later
        refine ⟨u :: us, ⟨u, us, converted, all, rfl⟩, ?_⟩
        simp only [List.zip_cons_cons, List.map_cons, List.forall₂_cons_left_iff]
        exact ⟨q, params, parameter_eq_ok_iff.mpr ⟨again, type⟩, bound, rfl⟩
      · rintro ⟨_, ⟨u, us, converted, all, rfl⟩, bound⟩
        simp only [List.zip_cons_cons, List.map_cons, List.forall₂_cons_left_iff] at bound
        obtain ⟨q, params, first, later, rfl⟩ := bound
        obtain ⟨prepared, type⟩ := parameter_eq_ok_iff.mp first
        have direct := (prepares v _ _ (known c List.mem_cons_self)).mpr ⟨u, converted, prepared⟩
        exact ⟨q, params, parameter_eq_ok_iff.mpr ⟨direct, type⟩,
          (ih known_rest others params).mpr ⟨us, all, later⟩, rfl⟩

end Dialect

namespace Filter

variable {d : Dialect}

/-- What looks for a value in a key column that has one. -/
theorem hasKeyValue_eq_ok_iff {key : Column} (known : key.type ≠ .unknown) {v : Value}
    (something : v.isNull = false) {f : Filter} :
    hasKeyValue key v = .ok f ↔ ∃ path u, ColumnPath.parse key.name = .ok path ∧
      v.convert key.type = .ok u ∧ f = .compare (.column path) .eq ⟨u, key.type⟩ false := by
  unfold hasKeyValue
  cases ColumnPath.parse key.name with
  | error fault => simp [bind, Except.bind]
  | ok path =>
    cases converted : v.convert key.type with
    | error fault => simp [bind, Except.bind, something, Constant.typed, known, converted]
    | ok u =>
      simp only [bind, Except.bind, something, Constant.typed, if_neg known, converted, pure,
        Except.pure]
      simp [eq_comm]

/-- A column is compared for equality with something that is not NULL. -/
theorem emitCompare_of_value {e : Expr} {v : Value} {type : ColumnType} (given : v.isNull = false) :
    emitCompare d e .eq ⟨v, type⟩ false = attempt (e.render d) >>= fun lhs => (do
      text lhs
      text (" " ++ Comparison.eq.sql ++ " ")
      Emit.value d v type) := by
  simp [emitCompare, Constant.isNull, given, Constant.emit]

theorem emitCompare_refilled (e : Expr) {u w : Value} (type : ColumnType)
    (old : u.isNull = false) (new : w.isNull = false) :
    Refilled d (emitCompare d e .eq ⟨u, type⟩ false) (emitCompare d e .eq ⟨w, type⟩ false)
      [(w, type)] := by
  rw [emitCompare_of_value old, emitCompare_of_value new]
  apply Refilled.attempt
  intro lhs _
  exact .cons (.cons (.value d u w type))

theorem enclosed_refilled {body body' : Emit Unit} {cells : List Cell}
    (h : Refilled d body body' cells) :
    Refilled d (Emit.enclosed d body) (Emit.enclosed d body') cells := by
  unfold Emit.enclosed
  by_cases wanted : d.features.parenthesizeFilters = true
  · have closed := h.seq (.text d ")")
    rw [List.append_nil] at closed
    rw [if_pos wanted, if_pos wanted]
    exact .cons closed
  · rw [if_neg wanted, if_neg wanted]
    exact h

/-- The parts of a condition that keys have values of their types: one for each key. -/
inductive KeyParts : List Column → List Value → List Filter → Prop
  | nil : KeyParts [] [] []
  | cons {key : Column} {path : ColumnPath} {v : Value} {keys : List Column} {values : List Value}
      {parts : List Filter} (parsed : ColumnPath.parse key.name = .ok path)
      (something : v.isNull = false) (rest : KeyParts keys values parts) :
      KeyParts (key :: keys) (v :: values)
        (.compare (.column path) .eq ⟨v, key.type⟩ false :: parts)

namespace KeyParts

variable {keys : List Column} {values others : List Value} {parts more : List Filter}

/-- Parts for other values differ in the values only. -/
theorem refilled (d : Dialect) (h : KeyParts keys values parts) (h' : KeyParts keys others more) :
    RefilledAll d (parts.map (·.emit d)) (more.map (·.emit d)) (cellsOf keys others) := by
  induction h generalizing others more with
  | nil =>
    cases h'
    exact .nil
  | @cons key path v keys values parts parsed something rest ih =>
    cases h' with
    | @cons _ path' w _ _ _ parsed' something' rest' =>
      obtain rfl : path = path' := Except.ok.inj (parsed.symm.trans parsed')
      have first := enclosed_refilled
        (emitCompare_refilled (d := d) (.column path) key.type something something')
      exact .cons first (ih rest')

/-- Where there are parts for some values, there are for all others that can be converted. -/
theorem exists_of_converted (h : KeyParts keys values parts) {given converted : List Value}
    (something : ∀ v ∈ given, v.isNull = false) (many : given.length = keys.length)
    (convert : (cellsOf keys given).mapM (fun cell => cell.1.convert cell.2) = .ok converted) :
    ∃ more, KeyParts keys converted more := by
  rw [mapM_eq_ok_iff] at convert
  induction h generalizing given converted with
  | nil =>
    obtain rfl := List.length_eq_zero_iff.mp many
    cases convert
    exact ⟨[], .nil⟩
  | @cons key path v keys values parts parsed _ rest ih =>
    obtain ⟨u, us, rfl⟩ := List.exists_cons_of_length_eq_add_one many
    obtain ⟨w, ws, first, later, rfl⟩ := List.forall₂_cons_left_iff.mp convert
    obtain ⟨more, others⟩ := ih (fun x member => something x (List.mem_cons_of_mem _ member))
      (Nat.succ.inj many) later
    have same := Value.isNull_of_convert? (Value.convert_eq_ok.mp first)
    have kept : w.isNull = false := same.trans (something u List.mem_cons_self)
    exact ⟨_, .cons parsed kept others⟩

end KeyParts

/-- What is written for keys without a NULL are the parts for the converted values. -/
theorem hasKeyValues_eq_ok_iff {keys : List Column} (known : ∀ key ∈ keys, key.type ≠ .unknown)
    {values : List Value} (something : ∀ v ∈ values, v.isNull = false)
    (many : values.length = keys.length) (parts : List Filter) :
    (keys.zip values).mapM (fun x => hasKeyValue x.1 x.2) = .ok parts ↔
      ∃ converted, (cellsOf keys values).mapM (fun cell => cell.1.convert cell.2) =
        .ok converted ∧ KeyParts keys converted parts := by
  simp only [mapM_eq_ok_iff]
  induction keys generalizing values parts with
  | nil =>
    obtain rfl := List.length_eq_zero_iff.mp many
    constructor
    · intro none
      cases none
      exact ⟨[], .nil, .nil⟩
    · rintro ⟨_, none, parts⟩
      cases none
      cases parts
      exact .nil
  | cons key keys ih =>
    obtain ⟨v, vs, rfl⟩ := List.exists_cons_of_length_eq_add_one many
    have here := something v List.mem_cons_self
    have first (part : Filter) :=
      hasKeyValue_eq_ok_iff (f := part) (known key List.mem_cons_self) here
    have later := ih (fun x member => known x (List.mem_cons_of_mem _ member))
      (fun x member => something x (List.mem_cons_of_mem _ member)) (Nat.succ.inj many)
    constructor
    · intro written
      obtain ⟨part, parts, one, others, rfl⟩ := List.forall₂_cons_left_iff.mp written
      obtain ⟨path, w, parsed, converted, rfl⟩ := (first part).mp one
      obtain ⟨ws, all, rest⟩ := (later parts).mp others
      have same := Value.isNull_of_convert? (Value.convert_eq_ok.mp converted)
      exact ⟨w :: ws, .cons converted all, .cons parsed (same.trans here) rest⟩
    · rintro ⟨_, converted, written⟩
      cases written with
      | cons parsed _ rest =>
        obtain ⟨one, others⟩ := List.forall₂_cons.mp converted
        exact .cons ((first _).mpr ⟨_, _, parsed, one, rfl⟩) ((later _).mpr ⟨_, others, rest⟩)

/-- A key condition is written as the junction of its parts, also where there is one part only. -/
theorem hasKey_eq_ok {keys : List Column} {values : List Value} {f : Filter}
    (written : hasKey keys values = .ok f) :
    values.length = keys.length ∧
      ∃ parts, (keys.zip values).mapM (fun x => hasKeyValue x.1 x.2) = .ok parts ∧
        ∀ d : Dialect, f.emit d = Emit.junction d " AND " true (parts.map (·.emit d)) := by
  unfold hasKey at written
  by_cases differ : keys.length ≠ values.length
  · rw [if_pos differ] at written
    cases written
  · have many : values.length = keys.length := (not_not.mp differ).symm
    rw [if_neg differ] at written
    refine ⟨many, ?_⟩
    cases all : (keys.zip values).mapM fun x => hasKeyValue x.1 x.2 with
    | error fault =>
      rw [all] at written
      cases written
    | ok parts =>
      rw [all] at written
      refine ⟨parts, rfl, fun d => ?_⟩
      match parts with
      | [part] =>
        obtain rfl := Except.ok.inj written
        rfl
      | [] | _ :: _ :: _ =>
        obtain rfl := Except.ok.inj written
        exact Filter.emit_and d _

theorem exists_hasKey {keys : List Column} {values : List Value} (many : values.length = keys.length)
    {parts : List Filter}
    (all : (keys.zip values).mapM (fun x => hasKeyValue x.1 x.2) = .ok parts) :
    ∃ f, hasKey keys values = .ok f := by
  have same : ¬ keys.length ≠ values.length := not_not.mpr many.symm
  unfold hasKey
  rw [if_neg same, all]
  match parts with
  | [part] => exact ⟨part, rfl⟩
  | [] | _ :: _ :: _ => exact ⟨_, rfl⟩

end Filter

namespace Update

variable {d : Dialect}

theorem emitAssignments_refilled (d : Dialect) {columns : List Column} {olds news : List Value}
    (many : olds.length = columns.length) (many' : news.length = columns.length) :
    RefilledAll d ((columns.zip olds).map (emitAssignment d))
      ((columns.zip news).map (emitAssignment d)) (cellsOf columns news) := by
  induction columns generalizing olds news with
  | nil => exact .nil
  | cons c rest ih =>
    obtain ⟨u, us, rfl⟩ := List.exists_cons_of_length_eq_add_one many
    obtain ⟨v, vs, rfl⟩ := List.exists_cons_of_length_eq_add_one many'
    have first : Refilled d (emitAssignment d (c, u)) (emitAssignment d (c, v)) [(v, c.type)] := by
      apply Refilled.attempt
      intro name _
      exact .cons (.cons (.value d u v c.type))
    exact .cons first (ih (Nat.succ.inj many) (Nat.succ.inj many'))

/-- UPDATEs of the same columns under conditions of one shape are of one shape. -/
theorem emit_refilled (table : String) {columns : List Column} {olds news : List Value}
    (many : olds.length = columns.length) (many' : news.length = columns.length) {f g : Filter}
    {cells : List Cell} (condition : Refilled d (f.emit d) (g.emit d) cells) :
    Refilled d (emit d ⟨table, columns.zip olds, some f⟩) (emit d ⟨table, columns.zip news, some g⟩)
      (cellsOf columns news ++ cells) := by
  have assignments := (emitAssignments_refilled d many many').separated ", "
  have body : Refilled d
      (do
        text "UPDATE "
        text (← attempt (d.tableName table))
        text " SET "
        separated ", " ((columns.zip olds).map (emitAssignment d))
        Filter.emitCondition d " WHERE " (some f))
      (do
        text "UPDATE "
        text (← attempt (d.tableName table))
        text " SET "
        separated ", " ((columns.zip news).map (emitAssignment d))
        Filter.emitCondition d " WHERE " (some g)) (cellsOf columns news ++ cells) := by
    refine .cons (.attempt fun name _ => .cons (.cons (assignments.seq ?_)))
    simp only [Filter.emitCondition]
    exact .cons condition
  cases columns with
  | nil => exact .refuse d _ _
  | cons c rest =>
    obtain ⟨u, us, rfl⟩ := List.exists_cons_of_length_eq_add_one many
    obtain ⟨v, vs, rfl⟩ := List.exists_cons_of_length_eq_add_one many'
    exact body

end Update

namespace PreparedUpdate

variable {d : Dialect} {table : String} {set keys : List Column} {p : PreparedUpdate}

/-- A prepared UPDATE has no template, or one that was written out for the defaults. -/
theorem prepare_eq_ok (prepared : prepare d table set keys = .ok p) :
    p = ⟨table, set, keys, d.preferredMode, none⟩ ∨
    isBindable d (set ++ keys) = true ∧ ∃ t,
      write ⟨table, set, keys, d.preferredMode, none⟩ d (defaults d set) (defaults d keys) =
        .ok t ∧
      p = ⟨table, set, keys, d.preferredMode, some { t with params := [] }⟩ := by
  unfold prepare at prepared
  by_cases none : keys.isEmpty = true
  · rw [if_pos none] at prepared
    cases prepared
  · rw [if_neg none] at prepared
    by_cases bindable : isBindable d (set ++ keys) = true
    · simp only [bindable, if_true] at prepared
      obtain ⟨t, written, prepared⟩ := bind_eq_ok_iff.mp prepared
      exact .inr ⟨bindable, t, written, (Except.ok.inj prepared).symm⟩
    · simp only [if_neg bindable] at prepared
      exact .inl (Except.ok.inj prepared).symm

theorem write_eq_ok_iff {setValues keyValues : List Value} {s : Statement} :
    p.write d setValues keyValues = .ok s ↔ ∃ f, Filter.hasKey p.keys keyValues = .ok f ∧
      Update.compile d p.mode ⟨p.table, p.set.zip setValues, some f⟩ = .ok s :=
  bind_eq_ok_iff

theorem columns_of_prepare (prepared : prepare d table set keys = .ok p) :
    p.set = set ∧ p.keys = keys := by
  obtain rfl | ⟨-, t, -, rfl⟩ := prepare_eq_ok prepared <;> exact ⟨rfl, rfl⟩

theorem binds_of_isBindable {columns : List Column} (bindable : isBindable d columns = true)
    {c : Column} (member : c ∈ columns) : d.binds c.type = true := by
  simp only [isBindable, Bool.and_eq_true, Bool.or_eq_true, Bool.not_eq_true',
    List.any_eq_false] at bindable
  obtain ⟨takes, texts | plain⟩ := bindable
  · simp [Dialect.binds, takes, texts]
  · have plain := plain c member
    simp [Dialect.binds, takes, plain]

/-- The parameters for one row are made of the values as they are given. -/
theorem params_eq (p : PreparedUpdate) (d : Dialect) {setValues : List Value}
    (many : setValues.length = p.set.length) (keyValues : List Value) :
    p.params d setValues keyValues =
      (cellsOf p.set setValues ++ cellsOf p.keys keyValues).mapM d.parameter := by
  rw [cellsOf_eq, cellsOf_eq, ← List.map_append, List.mapM_map, params, List.zip_append many]
  rfl

theorem length_defaults (d : Dialect) (columns : List Column) :
    (defaults d columns).length = columns.length := List.length_map _

/-- In a dialect that binds the columns, the cells of a row are bound whatever its values are. -/
theorem binds_of_mem_cellsOf (bindable : isBindable d (set ++ keys) = true)
    {setValues keyValues : List Value} {cell : Cell}
    (member : cell ∈ cellsOf set setValues ++ cellsOf keys keyValues) :
    d.binds cell.2 = true := by
  obtain ⟨c, found, type⟩ : ∃ c ∈ set ++ keys, c.type = cell.2 := by
    obtain inSet | inKeys := List.mem_append.mp member
    · obtain ⟨c, found, type⟩ := mem_cellsOf inSet
      exact ⟨c, List.mem_append_left _ found, type⟩
    · obtain ⟨c, found, type⟩ := mem_cellsOf inKeys
      exact ⟨c, List.mem_append_right _ found, type⟩
  rw [← type]
  exact binds_of_isBindable bindable found

/-- A template, compiled for a condition on the keys, is compiled for another condition on them with
other parameters. -/
theorem compile_iff_of_keyParts (bindable : isBindable d (set ++ keys) = true) {t s : Statement}
    {olds news oldKeys newKeys : List Value} (many : olds.length = set.length)
    (many' : news.length = set.length) {f g : Filter} {parts parts' : List Filter}
    (keyed : Filter.KeyParts keys oldKeys parts) (keyed' : Filter.KeyParts keys newKeys parts')
    (emitted : f.emit d = Emit.junction d " AND " true (parts.map (·.emit d)))
    (emitted' : g.emit d = Emit.junction d " AND " true (parts'.map (·.emit d)))
    (written : Update.compile d d.preferredMode ⟨table, set.zip olds, some f⟩ = .ok t) :
    Update.compile d d.preferredMode ⟨table, set.zip news, some g⟩ = .ok s ↔
      ∃ params, (cellsOf set news ++ cellsOf keys newKeys).mapM d.parameter = .ok params ∧
        s = { t with params := params } := by
  have conditions : Refilled d (f.emit d) (g.emit d) (cellsOf keys newKeys) := by
    rw [emitted, emitted']
    exact (keyed.refilled d keyed').junction " AND " true
  have updates := Update.emit_refilled table many many' conditions
  exact updates.compile (fun _ member => binds_of_mem_cellsOf bindable member) written s

/-- The template with the parameters for one row is what is written out for that row. -/
theorem rebound_iff_written (prepares : d.PreparesConverted)
    (known : ∀ key ∈ keys, key.type ≠ .unknown)
    (standing : ∀ key ∈ keys, (d.defaultValue key.type).isNull = false)
    (bindable : isBindable d (set ++ keys) = true) {t : Statement}
    (written : write ⟨table, set, keys, d.preferredMode, none⟩ d (defaults d set)
      (defaults d keys) = .ok t) {setValues keyValues : List Value}
    (many : setValues.length = set.length) (many_keys : keyValues.length = keys.length)
    (something : ∀ v ∈ keyValues, v.isNull = false) (s : Statement) :
    (∃ params, (cellsOf set setValues ++ cellsOf keys keyValues).mapM d.parameter = .ok params ∧
        s = { t with params := params }) ↔
      write ⟨table, set, keys, d.preferredMode, none⟩ d setValues keyValues = .ok s := by
  obtain ⟨f₀, condition₀, written⟩ := write_eq_ok_iff.mp written
  obtain ⟨many₀, parts₀, all₀, emitted₀⟩ := Filter.hasKey_eq_ok condition₀
  obtain ⟨converted₀, -, keyed₀⟩ :=
    (Filter.hasKeyValues_eq_ok_iff known (List.forall_mem_map.mpr standing) many₀ _).mp all₀
  have compiled {f : Filter} {converted : List Value} {parts : List Filter}
      (keyed : Filter.KeyParts keys converted parts)
      (emitted : f.emit d = Emit.junction d " AND " true (parts.map (·.emit d))) :
      Update.compile d d.preferredMode ⟨table, set.zip setValues, some f⟩ = .ok s ↔
        ∃ params, (cellsOf set setValues ++ cellsOf keys converted).mapM d.parameter = .ok params ∧
          s = { t with params := params } :=
    compile_iff_of_keyParts bindable (length_defaults d set) many keyed₀ keyed (emitted₀ d) emitted
      written
  constructor
  · rintro ⟨params, become, rfl⟩
    obtain ⟨ps, qs, setting, keying, rfl⟩ := mapM_append_eq_ok_iff.mp become
    obtain ⟨converted, all, again⟩ :=
      (Dialect.mapM_parameter_converted prepares known keyValues qs).mp keying
    obtain ⟨parts, keyed⟩ := keyed₀.exists_of_converted something many_keys all
    have parted := (Filter.hasKeyValues_eq_ok_iff known something many_keys _).mpr
      ⟨converted, all, keyed⟩
    obtain ⟨f, condition⟩ := Filter.exists_hasKey many_keys parted
    obtain ⟨-, parts', parted', emitted⟩ := Filter.hasKey_eq_ok condition
    obtain rfl : parts = parts' := Except.ok.inj (parted.symm.trans parted')
    refine write_eq_ok_iff.mpr ⟨f, condition, (compiled keyed (emitted d)).mpr ⟨_, ?_, rfl⟩⟩
    exact mapM_append_eq_ok_iff.mpr ⟨ps, qs, setting, again, rfl⟩
  · intro row
    obtain ⟨f, condition, row⟩ := write_eq_ok_iff.mp row
    obtain ⟨-, parts, parted, emitted⟩ := Filter.hasKey_eq_ok condition
    obtain ⟨converted, all, keyed⟩ :=
      (Filter.hasKeyValues_eq_ok_iff known something many_keys _).mp parted
    obtain ⟨params, become, rfl⟩ := (compiled keyed (emitted d)).mp row
    obtain ⟨ps, qs, setting, again, rfl⟩ := mapM_append_eq_ok_iff.mp become
    have keying := (Dialect.mapM_parameter_converted prepares known keyValues qs).mpr
      ⟨converted, all, again⟩
    exact ⟨_, mapM_append_eq_ok_iff.mpr ⟨ps, qs, setting, keying, rfl⟩, rfl⟩

theorem bind_of_length_ne {setValues : List Value} (differ : setValues.length ≠ p.set.length)
    (keyValues : List Value) :
    p.bind d setValues keyValues =
      .error (.invalid (.setValueCount setValues.length p.set.length)) := by
  unfold PreparedUpdate.bind
  rw [if_pos differ]
  rfl

theorem bind_of_no_template {setValues : List Value} (many : setValues.length = p.set.length)
    (none : p.template = none) (keyValues : List Value) :
    p.bind d setValues keyValues = p.write d setValues keyValues := by
  unfold PreparedUpdate.bind
  rw [if_neg (not_not.mpr many), none]

theorem bind_of_template {setValues : List Value} (many : setValues.length = p.set.length)
    {template : Statement} (some : p.template = some template) (keyValues : List Value) :
    p.bind d setValues keyValues =
      if (∀ v ∈ keyValues, v.isNull = false) ∧ keyValues.length = p.keys.length then
        (p.params d setValues keyValues).map fun params => { template with params }
      else p.write d setValues keyValues := by
  have shaped : (keyValues.any (·.isNull) || keyValues.length ≠ p.keys.length) = true ↔
      ¬ ((∀ v ∈ keyValues, v.isNull = false) ∧ keyValues.length = p.keys.length) := by
    simp [imp_iff_not_or]
  unfold PreparedUpdate.bind
  rw [if_neg (not_not.mpr many), some]
  by_cases plain : (∀ v ∈ keyValues, v.isNull = false) ∧ keyValues.length = p.keys.length
  · simp only [if_neg (mt shaped.mp (not_not.mpr plain)), if_pos plain]
    rfl
  · simp only [if_pos (shaped.mpr plain), if_neg plain]

/-- A prepared UPDATE takes one value for each column it sets, and then binds exactly the statements
that are compiled for the row: with the same text, markers and parameters, whether there is a
template or not, and for NULL keys. The defaults that the template is written with are no NULLs. -/
theorem bind_iff_compile
    (prepares : d.prepare = Value.convert ∨ (∃ b : Builtin, d = b.dialect) ∨ d.PreparesConverted)
    (known : ∀ key ∈ keys, key.type ≠ .unknown)
    (standing : ∀ key ∈ keys, (d.defaultValue key.type).isNull = false)
    (prepared : prepare d table set keys = .ok p)
    (setValues keyValues : List Value) (s : Statement) :
    p.bind d setValues keyValues = .ok s ↔ setValues.length = set.length ∧
      ∃ f, Filter.hasKey keys keyValues = .ok f ∧
        Update.compile d d.preferredMode ⟨table, set.zip setValues, some f⟩ = .ok s := by
  have prepares := Dialect.prepares_converted d prepares
  rw [← write_eq_ok_iff (p := ⟨table, set, keys, d.preferredMode, none⟩)]
  by_cases many : setValues.length = set.length
  · simp only [many, true_and]
    obtain rfl | ⟨bindable, t, written, rfl⟩ := prepare_eq_ok prepared
    · rw [bind_of_no_template many rfl]
    · rw [bind_of_template many rfl]
      by_cases plain : (∀ v ∈ keyValues, v.isNull = false) ∧ keyValues.length = keys.length
      · obtain ⟨something, many_keys⟩ := plain
        rw [if_pos ⟨something, many_keys⟩,
          ← rebound_iff_written prepares known standing bindable written many many_keys something,
          params_eq _ d many, map_eq_ok_iff]
        simp only [eq_comm]
      · rw [if_neg plain]
        rfl
  · have refused : ¬ p.bind d setValues keyValues = .ok s := by
      rw [bind_of_length_ne ((columns_of_prepare prepared).1 ▸ many)]
      simp
    simp only [many, false_and, iff_false]
    exact refused

/-- The age of a person is set, found by an identifier. -/
def ageing : PreparedUpdate where
  table := "People"
  set := [.of "Age" .integer]
  keys := [.of "Id" .guid]
  mode := .bind
  template := some {
    segments := [.text "UPDATE ", .text "\"People\"", .text " SET ", .text "\"Age\"", .text " = ",
      .marker ":P1", .text " WHERE ", .text "\"Id\"", .text " = ", .marker ":P2"]
    params := []
    maxRows := none }

/-- A key that is given as text is bound as the blob that SQLite holds it as. -/
def aged : Statement where
  segments := [.text "UPDATE ", .text "\"People\"", .text " SET ", .text "\"Age\"", .text " = ",
    .marker ":P1", .text " WHERE ", .text "\"Id\"", .text " = ", .marker ":P2"]
  params := [⟨.int 42, .integer⟩, ⟨.binary [0x33, 0x22, 0x11, 0x00, 0x55, 0x44, 0x77, 0x66, 0x88,
    0x99, 0xAA, 0xBB, 0xCC, 0xDD, 0xEE, 0xFF], .guid⟩]
  maxRows := none

/-- From the template comes what is compiled for the row. -/
theorem bind_iff_compile_ageing :
    ∃ f, Filter.hasKey ageing.keys [.string "00112233-4455-6677-8899-aabbccddeeff"] = .ok f ∧
      Update.compile Builtin.sqlite.dialect .bind
        ⟨"People", ageing.set.zip [.string "42"], some f⟩ = .ok aged := by
  have known : ∀ key ∈ ageing.keys, key.type ≠ .unknown := by decide
  have prepared : prepare Builtin.sqlite.dialect "People" ageing.set ageing.keys = .ok ageing := by
    decide +kernel
  have bound : ageing.bind Builtin.sqlite.dialect [.string "42"]
      [.string "00112233-4455-6677-8899-aabbccddeeff"] = .ok aged := by
    decide +kernel
  have standing : ∀ key ∈ ageing.keys,
      (Builtin.sqlite.dialect.defaultValue key.type).isNull = false := by decide
  exact ((bind_iff_compile (.inr (.inl ⟨.sqlite, rfl⟩)) known standing prepared _ _ _).mp bound).2

/-- A dialect that hands values on as they are. -/
def unconverted : Dialect := { Builtin.sqlite.dialect with prepare := fun v _ => .ok v }

/-- A dialect that puts nothing in place of NULL. -/
def unfilled : Dialect := { Builtin.sqlite.dialect with defaultValue := fun _ => .null }

/-- With one value too many, the UPDATE that leaves it out would be compiled, and binding refuses. A
dialect that does not convert binds a key as it is given from a template, and as it is converted
without one. In a dialect that has NULL for a default, the template looks for NULL. -/
theorem bind_differs_from_compile :
    (prepare Builtin.sqlite.dialect "People" ageing.set ageing.keys = .ok ageing ∧
      (∃ f, Filter.hasKey ageing.keys [.string "00112233-4455-6677-8899-aabbccddeeff"] = .ok f ∧
        Update.compile Builtin.sqlite.dialect .bind
          ⟨"People", ageing.set.zip [.string "42", .int 43], some f⟩ = .ok aged) ∧
      ageing.bind Builtin.sqlite.dialect [.string "42", .int 43]
          [.string "00112233-4455-6677-8899-aabbccddeeff"] =
        .error (.invalid (.setValueCount 2 1))) ∧
    (prepare unconverted "People" ageing.set ageing.keys = .ok ageing ∧
      ∃ f s t, Filter.hasKey ageing.keys [.string "00112233-4455-6677-8899-aabbccddeeff"] = .ok f ∧
        Update.compile unconverted .bind ⟨"People", ageing.set.zip [.int 42], some f⟩ = .ok s ∧
        ageing.bind unconverted [.int 42] [.string "00112233-4455-6677-8899-aabbccddeeff"] =
          .ok t ∧
        s.params ≠ t.params) ∧
    ∃ p f s t, prepare unfilled "People" ageing.set ageing.keys = .ok p ∧
      Filter.hasKey ageing.keys [.string "00112233-4455-6677-8899-aabbccddeeff"] = .ok f ∧
      Update.compile unfilled .bind ⟨"People", ageing.set.zip [.int 42], some f⟩ = .ok s ∧
      s.sql = "UPDATE \"People\" SET \"Age\" = :P1 WHERE \"Id\" = :P2" ∧
      p.bind unfilled [.int 42] [.string "00112233-4455-6677-8899-aabbccddeeff"] = .ok t ∧
      t.sql = "UPDATE \"People\" SET \"Age\" = :P1 WHERE \"Id\" IS NULL" := by
  have surplus : ageing.write Builtin.sqlite.dialect [.string "42", .int 43]
      [.string "00112233-4455-6677-8899-aabbccddeeff"] = .ok aged := by
    decide +kernel
  have written : ageing.write unconverted [.int 42]
      [.string "00112233-4455-6677-8899-aabbccddeeff"] =
        .ok { aged with params := [⟨.int 42, .integer⟩, ⟨.guid ⟨[0x00, 0x11, 0x22, 0x33, 0x44, 0x55,
          0x66, 0x77, 0x88, 0x99, 0xAA, 0xBB, 0xCC, 0xDD, 0xEE, 0xFF], rfl⟩, .guid⟩] } := by
    decide +kernel
  have bound : ageing.bind unconverted [.int 42]
      [.string "00112233-4455-6677-8899-aabbccddeeff"] =
        .ok { aged with params := [⟨.int 42, .integer⟩,
          ⟨.string "00112233-4455-6677-8899-aabbccddeeff", .guid⟩] } := by
    decide +kernel
  have tested : ageing.write unfilled [.int 42]
      [.string "00112233-4455-6677-8899-aabbccddeeff"] =
        .ok { aged with params := [⟨.int 42, .integer⟩, (aged.params[1])] } := by
    decide +kernel
  obtain ⟨f, condition, compiled⟩ := write_eq_ok_iff.mp written
  obtain ⟨g, condition', compiled'⟩ := write_eq_ok_iff.mp tested
  refine ⟨⟨?_, write_eq_ok_iff.mp surplus, ?_⟩, ⟨?_, f, _, _, condition, compiled, bound, ?_⟩,
    { ageing with template := some {
      segments := [.text "UPDATE ", .text "\"People\"", .text " SET ", .text "\"Age\"",
        .text " = ", .marker ":P1", .text " WHERE ", .text "\"Id\"", .text " IS NULL"]
      params := []
      maxRows := none } }, g, _, _, ?_, condition', compiled', ?_, rfl, ?_⟩
  all_goals decide +kernel

end PreparedUpdate

end SqlScribe

import SqlScribe.Proofs.Literal.Prepared
import SqlScribe.Proofs.Statement.Segments
import SqlScribe.Proofs.Statement.Templates

/-!
# Key tests of prepared UPDATEs

What an UPDATE says: which columns it sets, and how it looks for its keys. A template is written
with the values that the dialect puts in place of NULL and serves all later values; it serves them
only if it has a marker for every key column.
-/

namespace SqlScribe

open Emit

/-- The type that a value of the column is written as; the unknown type is inferred. -/
def Column.typeFor (c : Column) (v : Value) : ColumnType :=
  if c.type = .unknown then v.columnType else c.type

theorem Column.typeFor_of_known {c : Column} (known : c.type ≠ .unknown) (v : Value) :
    c.typeFor v = c.type := if_neg known

/-- A condition on the column is written with a marker for the value that the dialect puts in place
of NULL: that value is not NULL, and the dialect binds values of its type. -/
def Dialect.marksKey (d : Dialect) (key : Column) : Bool :=
  !(d.defaultValue key.type).isNull && d.binds (key.typeFor (d.defaultValue key.type))

/-! ## What an UPDATE says -/

/-- A column and what stands for the value it is set to. -/
structure Assignment where
  name : String
  value : Segment

/-- A key column and what stands for its value; a NULL is asked for without a value. -/
structure KeyTest where
  name : String
  value : Option Segment

/-- An UPDATE under a condition on keys. -/
structure WrittenUpdate where
  table : String
  set : List Assignment
  keys : List KeyTest

namespace Segment

theorem markers_joined (sep : String) (parts : List (List Segment)) :
    markers (joined sep parts) = parts.flatMap markers := by
  induction parts with
  | nil => rfl
  | cons part rest ih =>
    cases rest with
    | nil => exact (List.append_nil _).symm
    | cons second rest =>
      have later : markers (joined sep (part :: second :: rest)) =
          markers part ++ markers (joined sep (second :: rest)) := markers_append part _
      rw [later, ih]
      rfl

theorem markers_conjoined (d : Dialect) (parts : List (List Segment)) :
    markers (conjoined d parts) = parts.flatMap markers := by
  match parts with
  | [] => rfl
  | [part] => exact (List.append_nil _).symm
  | part :: second :: rest =>
    rw [conjoined, markers, markers_append, markers_joined]
    exact List.append_nil _

theorem markers_enclosed (d : Dialect) (condition : List Segment) :
    markers (enclosed d condition) = markers condition := by
  unfold enclosed
  split
  · rw [markers, markers_append]
    exact List.append_nil _
  · rfl

/-- Segments with one marker or none for each item have as many as there are such items. -/
theorem length_markers_of_forall₂ {α β : Type} {R : α → β → Prop} {form : β → List Segment}
    (marks : α → Bool) {xs : List α} {ys : List β} (h : List.Forall₂ R xs ys)
    (each : ∀ x ∈ xs, ∀ y, R x y → (markers (form y)).length = if marks x then 1 else 0) :
    ((ys.map form).flatMap markers).length = xs.countP marks := by
  induction h with
  | nil => rfl
  | cons first _ ih =>
    have here := each _ List.mem_cons_self _ first
    have later := ih fun x member => each x (List.mem_cons_of_mem _ member)
    rw [List.map_cons, List.flatMap_cons, List.length_append, List.countP_cons, here, later,
      Nat.add_comm]

variable {d : Dialect} {v : Value} {type : ColumnType} {x : Segment}

theorem StandsFor.marker_of_binds (h : StandsFor d v type x) (binds : d.binds type = true) :
    ∃ mark, x = .marker mark := by
  cases h with
  | literal inlines =>
    rw [binds] at inlines
    cases inlines
  | marker _ mark => exact ⟨mark, rfl⟩

/-- What stands for a value is a marker where the dialect binds it, and a text elsewhere. -/
theorem StandsFor.length_markers (h : StandsFor d v type x) :
    (markers [x]).length = if d.binds type then 1 else 0 := by
  cases h with
  | literal inlines =>
    rw [inlines]
    rfl
  | marker binds =>
    rw [binds]
    rfl

/-- A marker stands for any other value as well. -/
theorem StandsFor.refill (h : StandsFor d v type x) (binds : d.binds type = true) (w : Value) :
    StandsFor d w type x := by
  obtain ⟨mark, rfl⟩ := h.marker_of_binds binds
  exact .marker binds mark

/-- What stands for a converted value stands for the value. -/
theorem StandsFor.of_convert? {u : Value} (h : StandsFor d u type x)
    (converted : v.convert? type = some u) : StandsFor d v type x := by
  cases h with
  | literal inlines written =>
    rw [Dialect.literal_of_convert? converted] at written
    exact .literal inlines written
  | marker binds mark => exact .marker binds mark

end Segment

theorem Statement.markerCount_eq (s : Statement) :
    s.markerCount = (Segment.markers s.segments).length := by
  unfold markerCount
  induction s.segments with
  | nil => rfl
  | cons segment rest ih => cases segment <;> simp [Segment.markers, ih]

namespace Assignment

def segments (a : Assignment) : List Segment := [.text a.name, .text " = ", a.value]

/-- The column is set to the value. -/
structure Sets (d : Dialect) (column : Column × Value) (a : Assignment) : Prop where
  named : d.identifier column.1.name = .ok a.name
  given : Segment.StandsFor d column.2 column.1.type a.value

variable {d : Dialect} {c : Column} {v : Value} {a : Assignment}

theorem Sets.length_markers (h : a.Sets d (c, v)) (binds : d.binds c.type = true) :
    (Segment.markers a.segments).length = 1 := by
  obtain ⟨mark, marker⟩ := h.given.marker_of_binds binds
  rw [segments, marker]
  rfl

theorem Sets.refill (h : a.Sets d (c, v)) (binds : d.binds c.type = true) (w : Value) :
    a.Sets d (c, w) := ⟨h.named, h.given.refill binds w⟩

end Assignment

namespace KeyTest

def condition (t : KeyTest) : List Segment :=
  match t.value with
  | none => [.text t.name, .text " IS NULL"]
  | some x => [.text t.name, .text " = ", x]

def segments (d : Dialect) (t : KeyTest) : List Segment := Segment.enclosed d t.condition

/-- The key column is asked for the value: for NULL with `IS NULL`, for all else with equality, to a
marker or to the literal of the value. -/
structure AsksFor (d : Dialect) (key : Column × Value) (t : KeyTest) : Prop where
  named : ∃ path, ColumnPath.parse key.1.name = .ok path ∧ d.column path = .ok t.name
  null_iff : t.value = none ↔ key.2.isNull = true
  given : ∀ s, t.value = some (.text s) → d.literal key.2 (key.1.typeFor key.2) = .ok s

/-- The key column is asked for the value in the words that are chosen for this value: there is a
marker where the dialect binds it. -/
structure WrittenFor (d : Dialect) (key : Column × Value) (t : KeyTest) : Prop
    extends t.AsksFor d key where
  stands : ∀ x, t.value = some x → Segment.StandsFor d key.2 (key.1.typeFor key.2) x

variable {d : Dialect} {key : Column} {v : Value} {t : KeyTest}

theorem WrittenFor.length_markers (h : t.WrittenFor d (key, v)) :
    (Segment.markers (t.segments d)).length =
      if !v.isNull && d.binds (key.typeFor v) then 1 else 0 := by
  rw [segments, Segment.markers_enclosed, condition]
  cases value : t.value with
  | none =>
    rw [h.null_iff.mp value]
    rfl
  | some x =>
    have something : v.isNull = false := by
      rw [Bool.eq_false_iff, ne_eq, ← h.null_iff, value]
      exact Option.some_ne_none _
    rw [something]
    exact (h.stands x value).length_markers

/-- A test with a marker asks for any other value that is not NULL as well. -/
theorem WrittenFor.refill (h : t.WrittenFor d (key, d.defaultValue key.type))
    (marked : d.marksKey key = true) {w : Value} (something : w.isNull = false) :
    t.AsksFor d (key, w) := by
  obtain ⟨given, binds⟩ := Bool.and_eq_true_iff.mp marked
  have given : (d.defaultValue key.type).isNull = false := by simpa using given
  obtain ⟨x, value⟩ : ∃ x, t.value = some x := by
    rw [← Option.ne_none_iff_exists', ne_eq, h.null_iff, given]
    exact Bool.false_ne_true
  obtain ⟨mark, rfl⟩ := (h.stands x value).marker_of_binds binds
  refine ⟨h.named, ?_, ?_⟩
  · rw [value, something]
    exact iff_of_false (Option.some_ne_none _) Bool.false_ne_true
  · intro s same
    rw [value] at same
    cases same

end KeyTest

namespace WrittenUpdate

def segments (d : Dialect) (u : WrittenUpdate) : List Segment :=
  .text "UPDATE " :: .text u.table :: .text " SET " ::
    (Segment.joined ", " (u.set.map (·.segments)) ++
      .text " WHERE " :: Segment.conjoined d (u.keys.map (·.segments d)))

/-- Columns of a table are set to values where key columns have theirs. -/
structure Updates (d : Dialect) (table : String) (set keys : List (Column × Value))
    (u : WrittenUpdate) : Prop where
  named : d.tableName table = .ok u.table
  sets : List.Forall₂ (Assignment.Sets d) set u.set
  asks : List.Forall₂ (KeyTest.AsksFor d) keys u.keys

variable {d : Dialect} {table : String} {u : WrittenUpdate}

/-- Where the values to set are bound, there is a marker for each of them, and for each key that is
not NULL and bound as well. -/
theorem Updates.length_markers {set keys : List (Column × Value)} (h : u.Updates d table set keys)
    (written : List.Forall₂ (KeyTest.WrittenFor d) keys u.keys)
    (setting : ∀ x ∈ set, d.binds x.1.type = true) :
    (Segment.markers (u.segments d)).length =
      set.length + keys.countP fun key => !key.2.isNull && d.binds (key.1.typeFor key.2) := by
  have in_set : ((u.set.map (·.segments)).flatMap Segment.markers).length =
      set.countP fun _ => true := by
    apply Segment.length_markers_of_forall₂ _ h.sets
    exact fun x member a sets => sets.length_markers (setting x member)
  have in_keys : ((u.keys.map (·.segments d)).flatMap Segment.markers).length =
      keys.countP fun key => !key.2.isNull && d.binds (key.1.typeFor key.2) := by
    apply Segment.length_markers_of_forall₂ _ written
    exact fun x member t asks => asks.length_markers
  rw [List.countP_true] at in_set
  simp only [segments, Segment.markers, Segment.markers_append, Segment.markers_joined,
    Segment.markers_conjoined, List.length_append]
  omega

end WrittenUpdate

/-! ## What is written for an UPDATE -/

/-- What looks for a value in a key column, with a type or without one. -/
theorem Filter.eq_of_hasKeyValue {key : Column} {v : Value} {part : Filter}
    (written : hasKeyValue key v = .ok part) :
    ∃ path, ColumnPath.parse key.name = .ok path ∧
      (v.isNull = true ∧ part = .compareNull (.column path) false ∨
        v.isNull = false ∧ ∃ u, v.convert? (key.typeFor v) = some u ∧
          part = .compare (.column path) .eq ⟨u, key.typeFor v⟩ false) := by
  obtain ⟨path, parsed, written⟩ := bind_eq_ok_iff.mp written
  refine ⟨path, parsed, ?_⟩
  cases null : v.isNull with
  | true =>
    rw [null] at written
    exact .inl ⟨rfl, (Except.ok.inj written).symm⟩
  | false =>
    rw [null] at written
    obtain ⟨c, typed, made⟩ := bind_eq_ok_iff.mp written
    have typed : (if key.typeFor v = .unknown then .error .nullConstant
        else (v.convert (key.typeFor v)).map (Constant.mk · (key.typeFor v))) = .ok c := typed
    split at typed
    · cases typed
    · obtain ⟨u, converted, rfl⟩ := map_eq_ok_iff.mp typed
      exact .inr ⟨rfl, u, Value.convert_eq_ok.mp converted, (Except.ok.inj made).symm⟩

namespace Emit.Adds

variable {d : Dialect}

theorem assignment (d : Dialect) (x : Column × Value) :
    Adds d.preferredMode (Update.emitAssignment d x) fun added =>
      ∃ a : Assignment, a.Sets d x ∧ added = a.segments := by
  refine (attempt fun name => cons (cons (value d x.2 x.1.type))).mono ?_
  rintro _ ⟨name, named, _, ⟨_, ⟨y, given, rfl⟩, rfl⟩, rfl⟩
  exact ⟨⟨name, y⟩, ⟨named, given⟩, rfl⟩

theorem keyTest {key : Column} {v : Value} {part : Filter}
    (written : Filter.hasKeyValue key v = .ok part) :
    Adds d.preferredMode (part.emit d) fun added =>
      ∃ t : KeyTest, t.WrittenFor d (key, v) ∧ added = t.segments d := by
  obtain ⟨path, parsed, ⟨nothing, rfl⟩ | ⟨something, u, converted, rfl⟩⟩ :=
    Filter.eq_of_hasKeyValue written
  · refine (attempt fun name => cons (text " IS NULL")).enclosed.mono ?_
    rintro _ ⟨_, ⟨name, named, _, rfl, rfl⟩, rfl⟩
    exact ⟨⟨name, none⟩, ⟨⟨⟨path, parsed, named⟩, iff_of_true rfl nothing, nofun⟩, nofun⟩, rfl⟩
  · have given := (Value.isNull_of_convert? converted).trans something
    rw [Filter.emit, Filter.emitCompare_of_value given]
    refine (attempt fun name => cons (cons (value d u (key.typeFor v)))).enclosed.mono ?_
    rintro _ ⟨_, ⟨name, named, _, ⟨_, ⟨x, given, rfl⟩, rfl⟩, rfl⟩, rfl⟩
    have stands := given.of_convert? converted
    refine ⟨⟨name, some x⟩, ⟨⟨⟨path, parsed, named⟩, ?_, ?_⟩, ?_⟩, rfl⟩
    · exact iff_of_false (Option.some_ne_none x) (Bool.eq_false_iff.mp something)
    · rintro s ⟨⟩
      cases stands with
      | literal _ written => exact written
    · rintro _ ⟨⟩
      exact stands

theorem assignments (d : Dialect) (set : List (Column × Value)) :
    Adds d.preferredMode (Emit.separated ", " (set.map (Update.emitAssignment d))) fun added =>
      ∃ as : List Assignment, List.Forall₂ (Assignment.Sets d) set as ∧
        added = Segment.joined ", " (as.map (·.segments)) := by
  apply separated
  rw [List.forall₂_map_right_iff, List.forall₂_same]
  exact fun x _ => assignment d x

theorem keyTests {keys : List Column} {values : List Value} {f : Filter}
    (condition : Filter.hasKey keys values = .ok f) :
    Adds d.preferredMode (f.emit d) fun added =>
      ∃ ts : List KeyTest, List.Forall₂ (KeyTest.WrittenFor d) (keys.zip values) ts ∧
        added = Segment.conjoined d (ts.map (·.segments d)) := by
  obtain ⟨-, parts, all, emitted⟩ := Filter.hasKey_eq_ok condition
  rw [emitted]
  apply conjunction
  rw [List.forall₂_map_right_iff]
  exact (mapM_eq_ok_iff.mp all).imp fun x part written => keyTest written

theorem update (table : String) (set : List (Column × Value)) {keys : List Column}
    {values : List Value} {f : Filter} (condition : Filter.hasKey keys values = .ok f) :
    Adds d.preferredMode (Update.emit d ⟨table, set, some f⟩) fun added =>
      ∃ u : WrittenUpdate, u.Updates d table set (keys.zip values) ∧
        List.Forall₂ (KeyTest.WrittenFor d) (keys.zip values) u.keys ∧ added = u.segments d := by
  have body : Adds d.preferredMode
      (do
        Emit.text "UPDATE "
        Emit.text (← Emit.attempt (d.tableName table))
        Emit.text " SET "
        Emit.separated ", " (set.map (Update.emitAssignment d))
        Filter.emitCondition d " WHERE " (some f)) fun added =>
      ∃ u : WrittenUpdate, u.Updates d table set (keys.zip values) ∧
        List.Forall₂ (KeyTest.WrittenFor d) (keys.zip values) u.keys ∧ added = u.segments d := by
    simp only [Filter.emitCondition]
    refine (cons (attempt fun name => cons (cons
      ((assignments d set).seq (cons (keyTests condition)))))).mono ?_
    rintro _ ⟨_, ⟨name, named, _, ⟨_, ⟨_, _, ⟨as, sets, rfl⟩, ⟨_, ⟨ts, asks, rfl⟩, rfl⟩, rfl⟩, rfl⟩,
      rfl⟩, rfl⟩
    exact ⟨⟨name, as, ts⟩, ⟨named, sets, asks.imp fun _ _ written => written.toAsksFor⟩, asks, rfl⟩
  cases set with
  | nil =>
    refine (attempt fun _ => body).mono ?_
    rintro _ ⟨_, ⟨⟩, -⟩
  | cons x rest => exact body

end Emit.Adds

/-! ## Templates -/

/-- A relation of items to others is one of pairs to others where all pairs allow it. -/
theorem forall₂_zip {α β γ : Type} {R : α → γ → Prop} {S : α × β → γ → Prop} {xs : List α}
    {ys : List β} {zs : List γ} (many : ys.length = xs.length) (h : List.Forall₂ R xs zs)
    (step : ∀ x ∈ xs, ∀ y ∈ ys, ∀ z, R x z → S (x, y) z) : List.Forall₂ S (xs.zip ys) zs := by
  induction h generalizing ys with
  | nil => exact .nil
  | @cons x z xs zs first _ ih =>
    obtain ⟨y, ys, rfl⟩ := List.exists_cons_of_length_eq_add_one many
    refine .cons (step x List.mem_cons_self y List.mem_cons_self z first) ?_
    exact ih (Nat.succ.inj many) fun x inside y member =>
      step x (List.mem_cons_of_mem _ inside) y (List.mem_cons_of_mem _ member)

/-- Columns with the values that stand for NULL in them. -/
def Dialect.filled (d : Dialect) (columns : List Column) : List (Column × Value) :=
  columns.map fun c => (c, d.defaultValue c.type)

theorem Dialect.zip_defaults (d : Dialect) (columns : List Column) :
    columns.zip (PreparedUpdate.defaults d columns) = d.filled columns := by
  have paired : (columns.map id).zip (PreparedUpdate.defaults d columns) = d.filled columns :=
    List.zip_map'
  rwa [List.map_id] at paired

/-- Where the values to set are bound and there is a marker for each key, what updates to the values
that stand for NULL updates to any other values, the keys being none of them NULL. -/
theorem WrittenUpdate.Updates.refill {d : Dialect} {table : String} {set keys : List Column}
    {u : WrittenUpdate} (h : u.Updates d table (d.filled set) (d.filled keys))
    (written : List.Forall₂ (KeyTest.WrittenFor d) (d.filled keys) u.keys)
    (setting : ∀ c ∈ set, d.binds c.type = true) (marked : ∀ key ∈ keys, d.marksKey key = true)
    {setValues keyValues : List Value} (many : setValues.length = set.length)
    (many_keys : keyValues.length = keys.length)
    (something : ∀ v ∈ keyValues, v.isNull = false) :
    u.Updates d table (set.zip setValues) (keys.zip keyValues) where
  named := h.named
  sets := by
    have sets := h.sets
    rw [Dialect.filled, List.forall₂_map_left_iff] at sets
    exact forall₂_zip many sets fun c member v _ a assigned => assigned.refill (setting c member) v
  asks := by
    rw [Dialect.filled, List.forall₂_map_left_iff] at written
    exact forall₂_zip many_keys written fun key member v given t asked =>
      asked.refill (marked key member) (something v given)

namespace PreparedUpdate

variable {d : Dialect} {table : String} {set keys : List Column} {p : PreparedUpdate}

/-- What is written out for a row has a marker for each parameter, and tests each key for its
value. -/
theorem write_spec (mode : p.mode = d.preferredMode) {setValues keyValues : List Value}
    {s : Statement} (written : p.write d setValues keyValues = .ok s) :
    keyValues.length = p.keys.length ∧ s.markerCount = s.params.length ∧
      ∃ u : WrittenUpdate,
        u.Updates d p.table (p.set.zip setValues) (p.keys.zip keyValues) ∧
        List.Forall₂ (KeyTest.WrittenFor d) (p.keys.zip keyValues) u.keys ∧
        s.segments = u.segments d := by
  obtain ⟨f, condition, compiled⟩ := write_eq_ok_iff.mp written
  rw [mode] at compiled
  have matched := (Descriptor.matched_of_compile (x := .update _) compiled).1
  refine ⟨(Filter.hasKey_eq_ok condition).1, ?_, ?_⟩
  · rw [Statement.markerCount_eq, ← matched.length_eq, Statement.spans, Segment.length_spansFrom]
  · exact (Emit.Adds.update p.table _ condition).segments_of_compile compiled

/-- What a template says. It has a marker for each column to set and for each key column that the
dialect marks. -/
theorem template_spec (bindable : isBindable d (set ++ keys) = true) {t : Statement}
    (template : write ⟨table, set, keys, d.preferredMode, none⟩ d (defaults d set)
      (defaults d keys) = .ok t) :
    t.markerCount = set.length + keys.countP d.marksKey ∧
      ∃ u : WrittenUpdate, u.Updates d table (d.filled set) (d.filled keys) ∧
        List.Forall₂ (KeyTest.WrittenFor d) (d.filled keys) u.keys ∧
        t.segments = u.segments d := by
  obtain ⟨-, -, u, updates, written, segments⟩ := write_spec rfl template
  simp only [Dialect.zip_defaults] at updates written
  refine ⟨?_, u, updates, written, segments⟩
  rw [Statement.markerCount_eq, segments, updates.length_markers written, Dialect.filled,
    Dialect.filled, List.length_map, List.countP_map]
  · rfl
  · rw [Dialect.filled, List.forall_mem_map]
    exact fun c member => binds_of_isBindable bindable (List.mem_append_left _ member)

/-- A template with a marker for each key says the same for all keys, none of them NULL. -/
theorem template_updates (bindable : isBindable d (set ++ keys) = true) {t : Statement}
    (template : write ⟨table, set, keys, d.preferredMode, none⟩ d (defaults d set)
      (defaults d keys) = .ok t)
    (marked : ∀ key ∈ keys, d.marksKey key = true) {setValues keyValues : List Value}
    (many : setValues.length = set.length) (many_keys : keyValues.length = keys.length)
    (something : ∀ v ∈ keyValues, v.isNull = false) :
    t.markerCount = set.length + keys.length ∧
      ∃ u : WrittenUpdate, u.Updates d table (set.zip setValues) (keys.zip keyValues) ∧
        t.segments = u.segments d := by
  obtain ⟨markers, u, updates, written, segments⟩ := template_spec bindable template
  have all : keys.countP d.marksKey = keys.length := List.countP_eq_length.mpr marked
  have setting (c : Column) (member : c ∈ set) : d.binds c.type = true :=
    binds_of_isBindable bindable (List.mem_append_left _ member)
  exact ⟨by rw [markers, all], u,
    updates.refill written setting marked many many_keys something, segments⟩

theorem length_params (p : PreparedUpdate) (d : Dialect) {setValues keyValues : List Value}
    (many : setValues.length = p.set.length) (many_keys : keyValues.length = p.keys.length)
    {params : List Param} (become : p.params d setValues keyValues = .ok params) :
    params.length = p.set.length + p.keys.length := by
  rw [params_eq p d many, mapM_eq_ok_iff] at become
  rw [← become.length_eq]
  simp [cellsOf, many, many_keys]

/-- A row is written out, or its parameters go into the template. They do where there is a template
and all keys have values. -/
theorem bind_cases (prepared : prepare d table set keys = .ok p) {setValues keyValues : List Value}
    {s : Statement} (bound : p.bind d setValues keyValues = .ok s) :
    setValues.length = set.length ∧
      (write ⟨table, set, keys, d.preferredMode, none⟩ d setValues keyValues = .ok s ∧
        ¬ (p.template.isSome = true ∧ (∀ v ∈ keyValues, v.isNull = false) ∧
          keyValues.length = keys.length) ∨
      isBindable d (set ++ keys) = true ∧ p.template.isSome = true ∧
        (∀ v ∈ keyValues, v.isNull = false) ∧ keyValues.length = keys.length ∧
        ∃ t, write ⟨table, set, keys, d.preferredMode, none⟩ d (defaults d set)
            (defaults d keys) = .ok t ∧
          ∃ params, p.params d setValues keyValues = .ok params ∧ s = { t with params }) := by
  have many : setValues.length = set.length := by
    by_contra differ
    rw [bind_of_length_ne ((columns_of_prepare prepared).1 ▸ differ)] at bound
    cases bound
  refine ⟨many, ?_⟩
  obtain rfl | ⟨bindable, t, template, rfl⟩ := prepare_eq_ok prepared
  · rw [bind_of_no_template many rfl] at bound
    exact .inl ⟨bound, fun templated => Bool.false_ne_true templated.1⟩
  · rw [bind_of_template many rfl] at bound
    split at bound
    · rename_i plain
      obtain ⟨params, become, rfl⟩ := map_eq_ok_iff.mp bound
      exact .inr ⟨bindable, rfl, plain.1, plain.2, t, template, params, become, rfl⟩
    · rename_i shaped
      exact .inl ⟨bound, fun plain => shaped plain.2⟩

/-- Whatever the values are, the table is named, the columns to set under their identifiers, and the
key columns under their paths. -/
theorem bind_names (prepared : prepare d table set keys = .ok p) {setValues keyValues : List Value}
    {s : Statement} (bound : p.bind d setValues keyValues = .ok s) :
    keyValues.length = keys.length ∧ ∃ u : WrittenUpdate, d.tableName table = .ok u.table ∧
      List.Forall₂ (fun x a => d.identifier x.1.name = .ok a.name) (set.zip setValues) u.set ∧
      List.Forall₂ (fun key t => ∃ path, ColumnPath.parse key.1.name = .ok path ∧
        d.column path = .ok t.name) (keys.zip keyValues) u.keys ∧
      s.segments = u.segments d := by
  obtain ⟨many, ⟨written, -⟩ | ⟨bindable, -, -, many_keys, t, template, params, -, rfl⟩⟩ :=
    bind_cases prepared bound
  · obtain ⟨many_keys, -, u, updates, -, segments⟩ := write_spec rfl written
    exact ⟨many_keys, u, updates.named, updates.sets.imp fun _ _ sets => sets.named,
      updates.asks.imp fun _ _ asks => asks.named, segments⟩
  · obtain ⟨-, u, updates, -, segments⟩ := template_spec bindable template
    have sets := updates.sets
    have asks := updates.asks
    rw [Dialect.filled, List.forall₂_map_left_iff] at sets asks
    exact ⟨many_keys, u, updates.named, forall₂_zip many sets fun _ _ _ _ _ set => set.named,
      forall₂_zip many_keys asks fun _ _ _ _ _ asked => asked.named, segments⟩

/-- The keys of a row are looked for without one of their values: in the template there is no marker
for it. -/
def LosesKey (p : PreparedUpdate) (d : Dialect) (keyValues : List Value) : Prop :=
  p.template.isSome = true ∧ (∀ v ∈ keyValues, v.isNull = false) ∧
    ∃ key ∈ p.keys, d.marksKey key = false

/-- What is bound has a marker for each parameter and tests each key for its value. -/
theorem bind_spec (prepared : prepare d table set keys = .ok p) {setValues keyValues : List Value}
    (kept : ¬ p.LosesKey d keyValues) {s : Statement}
    (bound : p.bind d setValues keyValues = .ok s) :
    keyValues.length = keys.length ∧ s.markerCount = s.params.length ∧
      ∃ u : WrittenUpdate, u.Updates d table (set.zip setValues) (keys.zip keyValues) ∧
        s.segments = u.segments d := by
  obtain ⟨many, ⟨written, -⟩ |
    ⟨bindable, templated, something, many_keys, t, template, params, become, rfl⟩⟩ :=
    bind_cases prepared bound
  · obtain ⟨many_keys, marked, u, updates, -, segments⟩ := write_spec rfl written
    exact ⟨many_keys, marked, u, updates, segments⟩
  · obtain ⟨rfl, rfl⟩ := columns_of_prepare prepared
    have marked : ∀ key ∈ p.keys, d.marksKey key = true := fun key member =>
      Bool.of_not_eq_false fun unmarked => kept ⟨templated, something, key, member, unmarked⟩
    obtain ⟨markers, said⟩ := template_updates bindable template marked many many_keys something
    exact ⟨many_keys, markers.trans (p.length_params d many many_keys become).symm, said⟩

/-- Where keys are looked for without their values, there are more parameters than markers. -/
theorem markerCount_lt_of_losesKey (prepared : prepare d table set keys = .ok p)
    {setValues keyValues : List Value} (lost : p.LosesKey d keyValues) {s : Statement}
    (bound : p.bind d setValues keyValues = .ok s) :
    keyValues.length = keys.length ∧ s.markerCount < s.params.length := by
  obtain ⟨templated, something, key, member, unmarked⟩ := lost
  obtain ⟨many, ⟨written, shaped⟩ |
    ⟨bindable, -, -, many_keys, t, template, params, become, rfl⟩⟩ :=
    bind_cases prepared bound
  · exact absurd ⟨templated, something, (write_spec rfl written).1⟩ shaped
  · obtain ⟨rfl, rfl⟩ := columns_of_prepare prepared
    have parameters : params.length = p.set.length + p.keys.length :=
      p.length_params d many many_keys become
    have markers : t.markerCount = p.set.length + p.keys.countP d.marksKey :=
      (template_spec bindable template).1
    have fewer : p.keys.countP d.marksKey < p.keys.length :=
      List.countP_lt_length_iff.mpr ⟨key, member, unmarked⟩
    refine ⟨many_keys, ?_⟩
    change t.markerCount < params.length
    omega

/-- In a dialect with the usual values in place of NULL, only a key column of the unknown type is
looked for without its value. -/
theorem losesKey_iff_unknown (defaults : d.defaultValue = ColumnType.default)
    (prepared : prepare d table set keys = .ok p) (keyValues : List Value) :
    p.LosesKey d keyValues ↔ p.template.isSome = true ∧ (∀ v ∈ keyValues, v.isNull = false) ∧
      ∃ key ∈ p.keys, key.type = .unknown := by
  refine and_congr_right fun templated => and_congr_right fun _ => exists_congr fun key =>
    and_congr_right fun member => ?_
  rw [Dialect.marksKey, defaults, ColumnType.isNull_default]
  by_cases unknown : key.type = .unknown
  · simp [unknown]
  · obtain rfl | ⟨bindable, t, -, rfl⟩ := prepare_eq_ok prepared
    · cases templated
    · have binds := binds_of_isBindable bindable (List.mem_append_right _ member)
      simp [unknown, Column.typeFor_of_known unknown, binds]

/-- A statement that a prepared UPDATE binds has a marker for each parameter and tests each key for
its value, unless it comes from a template without a marker for one of the keys. -/
theorem bind_well_formed_iff (prepared : prepare d table set keys = .ok p)
    {setValues keyValues : List Value} {s : Statement}
    (bound : p.bind d setValues keyValues = .ok s) :
    setValues.length = set.length ∧ keyValues.length = keys.length ∧
      ((s.markerCount = s.params.length ∧
          ∃ u : WrittenUpdate, u.Updates d table (set.zip setValues) (keys.zip keyValues) ∧
            s.segments = u.segments d) ↔
        ¬ p.LosesKey d keyValues) ∧
      (d.defaultValue = ColumnType.default → (p.LosesKey d keyValues ↔
        p.template.isSome = true ∧ (∀ v ∈ keyValues, v.isNull = false) ∧
          ∃ key ∈ p.keys, key.type = .unknown)) := by
  have many := (bind_cases prepared bound).1
  have unknown (defaults : d.defaultValue = ColumnType.default) :=
    losesKey_iff_unknown defaults prepared keyValues
  by_cases lost : p.LosesKey d keyValues
  · obtain ⟨many_keys, fewer⟩ := markerCount_lt_of_losesKey prepared lost bound
    refine ⟨many, many_keys, iff_of_false ?_ (not_not_intro lost), unknown⟩
    rintro ⟨marked, -⟩
    omega
  · obtain ⟨many_keys, formed⟩ := bind_spec prepared lost bound
    exact ⟨many, many_keys, iff_of_true formed lost, unknown⟩

/-- A number is set in a table whose key column has no type. -/
def untyped : PreparedUpdate where
  table := "T"
  set := [.of "V" .integer]
  keys := [.of "K" .unknown]
  mode := .bind
  template := some {
    segments := [.text "UPDATE ", .text "\"T\"", .text " SET ", .text "\"V\"", .text " = ",
      .marker ":P1", .text " WHERE ", .text "\"K\"", .text " IS NULL"]
    params := []
    maxRows := none }

/-- What is bound for a NULL key. -/
def unkeyed : Statement where
  segments := [.text "UPDATE ", .text "\"T\"", .text " SET ", .text "\"V\"", .text " = ",
    .marker ":P1", .text " WHERE ", .text "\"K\"", .text " IS NULL"]
  params := [⟨.int 1, .integer⟩]
  maxRows := none

/-- A NULL is looked for as it should be. -/
theorem bind_well_formed_null :
    prepare Builtin.sqlite.dialect "T" [.of "V" .integer] [.of "K" .unknown] = .ok untyped ∧
      untyped.bind Builtin.sqlite.dialect [.int 1] [.null] = .ok unkeyed ∧
      unkeyed.markerCount = unkeyed.params.length ∧
      ∃ u : WrittenUpdate, u.Updates Builtin.sqlite.dialect "T" [(.of "V" .integer, .int 1)]
          [(.of "K" .unknown, .null)] ∧
        unkeyed.segments = u.segments Builtin.sqlite.dialect := by
  have prepared : prepare Builtin.sqlite.dialect "T" [.of "V" .integer] [.of "K" .unknown] =
      .ok untyped := by decide +kernel
  have bound : untyped.bind Builtin.sqlite.dialect [.int 1] [.null] = .ok unkeyed := by
    decide +kernel
  obtain ⟨-, -, formed, -⟩ := bind_well_formed_iff prepared bound
  refine ⟨prepared, bound, formed.mpr ?_⟩
  rintro ⟨-, something, -⟩
  cases something .null List.mem_cons_self

/-- A value has a parameter, but the condition looks for NULL and has no marker for it. -/
theorem bind_loses_key :
    prepare Builtin.sqlite.dialect "T" [.of "V" .integer] [.of "K" .unknown] = .ok untyped ∧
      ∃ s, untyped.bind Builtin.sqlite.dialect [.int 1] [.int 5] = .ok s ∧
        s.sql = "UPDATE \"T\" SET \"V\" = :P1 WHERE \"K\" IS NULL" ∧
        s.markerCount = 1 ∧ s.params = [⟨.int 1, .integer⟩, ⟨.int 5, .unknown⟩] := by
  refine ⟨by decide +kernel,
    { unkeyed with params := [⟨.int 1, .integer⟩, ⟨.int 5, .unknown⟩] }, ?_, ?_, ?_, rfl⟩
  all_goals decide +kernel

end PreparedUpdate

end SqlScribe

import SqlScribe.Proofs.Lexing.Names
import SqlScribe.Proofs.Statement.KeyTests
import SqlScribe.Proofs.Writer.IdealTable
import SqlScribe.Proofs.Writer.Opening

/-!
# How a session names its columns

The INSERT of a session and the assignments of its UPDATE name a column by one identifier, the
condition of the UPDATE by a path. These are the same for plain names, and usually for no others.
-/

namespace SqlScribe

open Emit Text

/-! ## The columns that an INSERT lists -/

namespace Emit.Adds

variable {d : Dialect}

/-- Whatever rows add, they do not change the mode. -/
theorem rows (columns : List Column) (index : Nat) (rows : List Row) :
    Adds d.preferredMode (Insert.emitRows d columns index rows) fun _ => True := by
  induction rows generalizing index with
  | nil => exact nothing.mono fun _ _ => trivial
  | cons row rest ih =>
    have cells : Adds d.preferredMode (Insert.emitCells d (row.zip columns)) fun added =>
        ∃ xs, List.Forall₂ (fun cell => Segment.StandsFor d cell.1 cell.2.type)
          (row.zip columns) xs ∧ added = Segment.joined ", " (xs.map fun x => [x]) := by
      apply separated
      rw [List.forall₂_map_right_iff, List.forall₂_same]
      exact fun cell _ => value d cell.1 cell.2.type
    have body : Adds d.preferredMode
        (do
          Emit.text (if index = 0 then "(" else ", (")
          Insert.emitCells d (row.zip columns)
          Emit.text ")"
          Insert.emitRows d columns (index + 1) rest) fun _ => True :=
      (cons (cells.seq (cons (ih (index + 1))))).mono fun _ _ => trivial
    unfold Insert.emitRows
    by_cases differ : row.length ≠ columns.length
    · simp only [if_pos differ]
      exact (attempt fun _ => body).mono fun _ _ => trivial
    · simp only [if_neg differ]
      exact body

/-- An INSERT lists the identifiers of its columns. -/
theorem insert (d : Dialect) (i : Insert) :
    Adds d.preferredMode (i.emit d) fun added => ∃ table listed rest,
      d.tableName i.table = .ok table ∧
      List.Forall₂ (fun c name => d.identifier c.name = .ok name) i.columns listed ∧
      added = .text "INSERT INTO " :: .text table ::
        .text (" (" ++ join ", " listed ++ ") VALUES ") :: rest := by
  refine (attempt fun _ => cons (attempt fun table => cons (attempt fun listed =>
    cons (rows i.columns 0 i.rows)))).mono ?_
  rintro _ ⟨-, -, _, ⟨table, named, _, ⟨listed, each, rest, -, rfl⟩, rfl⟩, rfl⟩
  exact ⟨table, listed, rest, named, mapM_eq_ok_iff.mp each, rfl⟩

end Emit.Adds

/-! ## The columns of a session -/

theorem exists_getElem?_of_forall₂ {α β : Type} {R : α → β → Prop} {xs : List α} {ys : List β}
    (h : List.Forall₂ R xs ys) {i : Nat} {x : α} (here : xs[i]? = some x) :
    ∃ y, ys[i]? = some y ∧ R x y := by
  obtain ⟨length, each⟩ := List.forall₂_iff_get.mp h
  obtain ⟨inside, rfl⟩ := List.getElem?_eq_some_iff.mp here
  have within : i < ys.length := length ▸ inside
  exact ⟨ys[i], List.getElem?_eq_getElem within, each i inside within⟩

namespace Session

/-- What is written for the columns at some places is written place by place. -/
theorem forall₂_of_columnsAt {s : Session} {β : Type} {R : Column × Value → β → Prop}
    {places : List Nat} (within : ∀ i ∈ places, i < s.columns.length) {values : List Value}
    (many : values.length = (s.columnsAt places).length) {zs : List β}
    (h : List.Forall₂ R ((s.columnsAt places).zip values) zs) :
    List.Forall₂ (fun i z => ∃ c v, s.columns[i]? = some c ∧ R (c, v) z) places zs := by
  unfold columnsAt at many h
  induction places generalizing values zs with
  | nil =>
    cases h
    exact .nil
  | cons i rest ih =>
    have here : s.columns[i]? = some _ := List.getElem?_eq_getElem (within i List.mem_cons_self)
    rw [List.filterMap_cons, here] at many h
    obtain ⟨v, values, rfl⟩ := List.exists_cons_of_length_eq_add_one many
    obtain ⟨z, zs, first, later, rfl⟩ := List.forall₂_cons_left_iff.mp h
    refine .cons ⟨_, v, here, first⟩ (ih (fun j member => ?_) (Nat.succ.inj many) later)
    exact within j (List.mem_cons_of_mem i member)

/-- In an opened session every other column is set under the name that INSERTs list for it. A key
column has the listed name in the condition exactly if its identifier is what its path is written
as; in a dialect with the usual names these are the columns with plain names. -/
theorem names_alike_iff {d : Dialect} {table : String} {columns : List Column} {names : List String}
    {mode : WriteMode} {s : Session} (start : Session.start d table columns names mode = .ok s)
    {p : PreparedUpdate} (ready : s.upsertUpdate = .ok p) {set keys : List Value} {u : Statement}
    (updates : p.bind s.dialect set keys = .ok u) {batch : List Row} {i : Statement}
    (inserts : s.batchInsert batch = .ok i) :
    ∃ (w : WrittenUpdate) (listed : List String) (rest : List Segment),
      u.segments = w.segments d ∧
      i.segments = .text "INSERT INTO " :: .text w.table ::
        .text (" (" ++ join ", " listed ++ ") VALUES ") :: rest ∧
      listed.length = columns.length ∧
      List.Forall₂ (fun place a => listed[place]? = some a.name) s.other w.set ∧
      List.Forall₂ (fun place t => ∃ c, columns[place]? = some c ∧
        (listed[place]? = some t.name ↔ d.NamesAlike c.name) ∧
        (d.UsualNames → (d.NamesAlike c.name ↔ ColumnPath.Plain c.name))) s.search w.keys := by
  obtain ⟨search, -, located, -, rfl⟩ := start_spec start
  have within : ∀ i ∈ search, i < columns.length := within_of_locate located (List.forall_mem_nil _)
  have within_other : ∀ i ∈ Row.otherPlaces search columns.length, i < columns.length :=
    fun i member => (Row.mem_otherPlaces.mp member).1
  have many := (PreparedUpdate.bind_cases ready updates).1
  obtain ⟨many_keys, w, named, sets, asks, said⟩ := PreparedUpdate.bind_names ready updates
  obtain ⟨table', listed, rest, named', each, written⟩ :=
    (Emit.Adds.insert d ⟨table, columns, batch⟩).segments_of_compile inserts
  obtain rfl : table' = w.table := Except.ok.inj (named'.symm.trans named)
  refine ⟨w, listed, rest, said, written, each.length_eq.symm, ?_, ?_⟩
  · refine (forall₂_of_columnsAt within_other many sets).imp ?_
    rintro i a ⟨c, v, here, set⟩
    obtain ⟨name, listed_here, identifier⟩ := exists_getElem?_of_forall₂ each here
    rw [listed_here, Except.ok.inj (identifier.symm.trans set)]
  · refine (forall₂_of_columnsAt within many_keys asks).imp ?_
    rintro i t ⟨c, v, here, asked⟩
    obtain ⟨name, listed_here, identifier⟩ := exists_getElem?_of_forall₂ each here
    obtain ⟨path, parsed, column⟩ := asked
    refine ⟨c, here, ?_, fun usual => usual.namesAlike_iff identifier parsed column⟩
    rw [Dialect.namesAlike_iff identifier parsed column, listed_here, Option.some.injEq, eq_comm]

/-- A session for numbers, which are known by a column of some name. -/
def keyedBy (name : String) : Session where
  dialect := Builtin.sqlite.dialect
  table := "T"
  columns := [.of name .integer, .of "V" .integer]
  mode := .insertOrUpdate
  search := [0]
  other := [1]
  batchSize := Builtin.sqlite.dialect.features.batchRows 2
  maxStaged := 10000
  staging := .empty [0]
  update := none
  summary := {}

/-- The UPDATE of such a session, of which the key is written in some way. -/
def keyedUpdate (name written : String) : PreparedUpdate where
  table := "T"
  set := [.of "V" .integer]
  keys := [.of name .integer]
  mode := .bind
  template := some {
    segments := [.text "UPDATE ", .text "\"T\"", .text " SET ", .text "\"V\"", .text " = ",
      .marker ":P1", .text " WHERE ", .text written, .text " = ", .marker ":P2"]
    params := []
    maxRows := none }

theorem start_keyedBy (name : String)
    (checked : checkColumns "T" [] [.of name .integer, .of "V" .integer] = .ok ())
    (located : locate "T" [.of name .integer, .of "V" .integer] [] [name] = .ok [0]) :
    Session.start Builtin.sqlite.dialect "T" [.of name .integer, .of "V" .integer] [name]
      .insertOrUpdate = .ok (keyedBy name) := by
  have named : isAllBlank "T" = false := by decide +kernel
  simp only [Session.start, named, checked, located]
  rfl

/-- A plain name is the same in all statements. -/
theorem names_alike_plain :
    ∃ p u i, (keyedBy "Id").upsertUpdate = .ok p ∧
      p.bind Builtin.sqlite.dialect [.int 7] [.int 1] = .ok u ∧
      (keyedBy "Id").batchInsert [[.int 1, .int 7]] = .ok i ∧
      ∃ (w : WrittenUpdate) (listed : List String) (rest : List Segment),
        u.segments = w.segments Builtin.sqlite.dialect ∧
        i.segments = .text "INSERT INTO " :: .text w.table ::
          .text (" (" ++ join ", " listed ++ ") VALUES ") :: rest ∧
        List.Forall₂ (fun place a => listed[place]? = some a.name) [1] w.set ∧
        List.Forall₂ (fun place t => listed[place]? = some t.name) [0] w.keys := by
  have start := start_keyedBy "Id" (by decide +kernel) (by decide +kernel)
  have ready : (keyedBy "Id").upsertUpdate = .ok (keyedUpdate "Id" "\"Id\"") := by decide +kernel
  have updates : (keyedUpdate "Id" "\"Id\"").bind (keyedBy "Id").dialect [.int 7] [.int 1] =
      .ok _ := rfl
  have inserts : (keyedBy "Id").batchInsert [[.int 1, .int 7]] = .ok _ := rfl
  refine ⟨_, _, _, ready, updates, inserts, ?_⟩
  obtain ⟨w, listed, rest, said, written, -, sets, keys⟩ :=
    names_alike_iff start ready updates inserts
  refine ⟨w, listed, rest, said, written, sets, ?_⟩
  obtain ⟨t, none, ⟨c, here, same, usual⟩, later, keyed⟩ := List.forall₂_cons_left_iff.mp keys
  obtain rfl : Column.of "Id" .integer = c := Option.some.inj here
  have plain : ColumnPath.Plain "Id" := by decide +kernel
  rw [keyed, List.forall₂_nil_left_iff.mp later]
  exact .cons (same.mpr ((usual (.builtin .sqlite rfl)).mpr plain)) .nil

/-- A name with a point is one identifier where it is listed, and two in the condition. -/
theorem names_differ :
    Session.start Builtin.sqlite.dialect "T" [.of "a.b" .integer, .of "V" .integer] ["a.b"]
        .insertOrUpdate = .ok (keyedBy "a.b") ∧
      ∃ p u i, (keyedBy "a.b").upsertUpdate = .ok p ∧
        p.bind (keyedBy "a.b").dialect [.int 7] [.int 1] = .ok u ∧
        (keyedBy "a.b").batchInsert [[.int 1, .int 7]] = .ok i ∧
        u.sql = "UPDATE \"T\" SET \"V\" = :P1 WHERE \"a\".\"b\" = :P2" ∧
        i.sql = "INSERT INTO \"T\" (\"a.b\", \"V\") VALUES (:P1, :P2)" := by
  refine ⟨start_keyedBy "a.b" (by decide +kernel) (by decide +kernel),
    keyedUpdate "a.b" "\"a\".\"b\"", _, _, ?_, rfl, rfl, ?_, ?_⟩
  all_goals decide +kernel

end Session

end SqlScribe

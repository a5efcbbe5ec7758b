import SqlScribe.Proofs.Condition.Agreement
import SqlScribe.Proofs.Query.Checked
import SqlScribe.Proofs.Statement.Templates
import SqlScribe.Proofs.Value.Ordering
import SqlScribe.Proofs.Writer.Upsert

/-!
# Keys that are staged and keys that are looked for

A row is looked for among the staged rows by the images of its prepared key cells, and among the
stored rows by a condition on its key columns. Both ask for the same: a staged row is found exactly
if the condition holds of the row that the table keeps for it.
-/

namespace SqlScribe

open Text Sql

namespace Row

/-- The cells of a converted row are the converted cells; NULL stands for those that are lacking. -/
theorem cell_of_convertRow {columns : List Column} {row held : Row}
    (converted : Table.convertRow columns row = .ok held) {i : Nat} {c : Column}
    (column : columns[i]? = some c) : (row.cell i).convert c.type = .ok (held.cell i) := by
  obtain ⟨length, cells⟩ := List.forall₂_iff_get.mp (mapM_eq_ok_iff.mp converted)
  obtain ⟨inside, rfl⟩ := List.getElem?_eq_some_iff.mp column
  rw [List.length_zip] at length
  unfold cell
  by_cases present : i < row.length
  · have kept : i < held.length := by omega
    have here := cells i (by rw [List.length_zip]; omega) kept
    rw [List.get_eq_getElem, List.getElem_zip] at here
    rw [List.getElem?_eq_getElem present, List.getElem?_eq_getElem kept]
    exact here
  · rw [List.getElem?_eq_none (by omega), List.getElem?_eq_none (by omega)]
    exact Value.convert_eq_ok.mpr (Value.convert?_null _)

theorem cell_map {form : Value → Value} (null : form .null = .null) (row : Row) (i : Nat) :
    Row.cell (row.map form) i = form (row.cell i) := by
  rw [cell, cell, List.getElem?_map]
  cases row[i]? with
  | none => exact null.symm
  | some v => rfl

theorem key_eq_iff {search : List Nat} {a b : Row} :
    a.key search = b.key search ↔ ∀ i ∈ search, (a.cell i).keyImage = (b.cell i).keyImage :=
  List.map_inj_left

end Row

/-- A built-in dialect prepares a row as it does the converted row, cell by cell. -/
theorem Builtin.prepareRow_eq (b : Builtin) {s : Session} (dialect : s.dialect = b.dialect)
    (row : Row) : s.prepareRow row = (Table.convertRow s.columns row).map (List.map b.form) := by
  unfold Session.prepareRow Table.convertRow
  rw [dialect, ← mapM_map_result]
  simp only [b.prepare_eq]

namespace Filter

/-- What is asked of one key column. -/
def keyPart (key : Column) (v : Value) : Filter :=
  if v.isNull then .compareNull (.column ⟨[key.name]⟩) false
  else .compare (.column ⟨[key.name]⟩) .eq ⟨v, key.type⟩ false

theorem hasKeyValue_eq {key : Column} (parsed : ColumnPath.parse key.name = .ok ⟨[key.name]⟩)
    (known : key.type ≠ .unknown) {v u : Value} (converted : v.convert key.type = .ok u) :
    hasKeyValue key v = .ok (keyPart key u) := by
  have null := Value.isNull_of_convert? (Value.convert_eq_ok.mp converted)
  unfold keyPart
  rw [null]
  split
  · rename_i nothing
    simp only [hasKeyValue, parsed, nothing, bind, Except.bind, pure, Except.pure, if_true]
  · rename_i something
    exact (hasKeyValue_eq_ok_iff known (Bool.eq_false_iff.mpr something)).mpr
      ⟨_, u, parsed, converted, rfl⟩

/-- The condition that a list of parts makes. -/
def whole : List Filter → Filter
  | [part] => part
  | parts => .and parts

theorem hasKey_eq {keys : List Column} {values : List Value}
    (length : keys.length = values.length) :
    hasKey keys values =
      ((keys.zip values).mapM fun (key, value) => hasKeyValue key value).map whole := by
  rw [hasKey, if_neg (not_not_intro length)]
  generalize @List.mapM (Except Fault) _ _ _ _ (keys.zip values) = made
  cases made with
  | error f => rfl
  | ok parts =>
    cases parts with
    | nil => rfl
    | cons part rest => cases rest <;> rfl

end Filter

namespace Table

variable {t : Table} {row : Row}

/-- The condition is true of the row, or not, as the proposition says; it never fails. -/
def Decides (t : Table) (row : Row) (f : Filter) (p : Prop) : Prop :=
  ∃ verdict, t.test row f = .ok verdict ∧ (verdict = some true ↔ p)

theorem Decides.congr {f : Filter} {p q : Prop} (h : t.Decides row f p) (same : p ↔ q) :
    t.Decides row f q := by
  obtain ⟨verdict, tested, holds⟩ := h
  exact ⟨verdict, tested, holds.trans same⟩

theorem testAll_decides {parts : List Filter} {ps : List Prop}
    (h : List.Forall₂ (fun f p => t.Decides row f p) parts ps) :
    ∃ verdict, t.testAll row (some true) parts = .ok verdict ∧
      (verdict = some true ↔ ∀ p ∈ ps, p) := by
  induction h with
  | nil => exact ⟨some true, rfl, by simp⟩
  | cons first _ ih =>
    obtain ⟨verdict, tested, holds⟩ := first
    obtain ⟨others, rest, all⟩ := ih
    rw [testAll_cons, tested, rest, List.forall_mem_cons, ← holds, ← all]
    refine ⟨_, andThen_ok _ _, ?_⟩
    rcases verdict with _ | _ | _ <;> rcases others with _ | _ | _ <;> decide

/-- Parts that decide one thing each decide all of them together. -/
theorem whole_decides {parts : List Filter} {ps : List Prop}
    (h : List.Forall₂ (fun f p => t.Decides row f p) parts ps) :
    t.Decides row (Filter.whole parts) (∀ p ∈ ps, p) := by
  have all := testAll_decides h
  cases h with
  | nil => exact all
  | @cons f p rest others first later =>
    cases later with
    | nil => exact first.congr (List.forall_mem_singleton (p := id)).symm
    | cons second more => exact all

/-- A column that its plain name names, and whose values can be compared exactly. -/
structure KeyAt (t : Table) (i : Nat) (key : Column) : Prop where
  column : t.columns[i]? = some key
  parsed : ColumnPath.parse key.name = .ok ⟨[key.name]⟩
  position : t.position ⟨[key.name]⟩ = .ok i
  known : key.type ≠ .unknown
  exact : key.type ≠ .float

/-- What is asked of a key column is decided by the images of the two values. -/
theorem keyPart_decides {key : Column} {i : Nat} {v : Value} (here : t.KeyAt i key)
    (left : (row.cell i).belongs key.type = true) (right : v.belongs key.type = true) :
    t.Decides row (Filter.keyPart key v) ((row.cell i).keyImage = v.keyImage) := by
  have value : t.eval row (.column ⟨[key.name]⟩) = .ok (row.cell i) := by
    rw [eval, here.position]
    rfl
  unfold Filter.keyPart
  split
  · rename_i nothing
    refine ⟨some (row.cell i).isNull, ?_, ?_⟩
    · rw [test, value]
      simp [bind, Except.bind, pure, Except.pure]
    · rw [Value.isNull_iff.mp nothing]
      cases row.cell i <;> simp [Value.isNull, Value.keyImage]
  · rename_i something
    have given : Constant.isNull ⟨v, key.type⟩ = false := Bool.eq_false_iff.mpr something
    have compared : t.test row (.compare (.column ⟨[key.name]⟩) .eq ⟨v, key.type⟩ false) =
        Filter.testCompare (row.cell i) .eq ⟨v, key.type⟩ := by
      rw [test, given, value]
      rfl
    obtain ⟨order, ordered, same⟩ := Value.compare?_of_belongs here.known here.exact left right
    unfold Decides
    rw [compared, Filter.testCompare]
    split
    · rename_i nothing
      refine ⟨none, rfl, ?_⟩
      rw [Value.isNull_iff.mp nothing]
      cases v <;> simp_all [Value.isNull, Value.keyImage]
    · refine ⟨some (order == .eq), ?_, ?_⟩
      · simp only [Value.compareConverted, ordered]
        rfl
      · rw [← same]
        simp


/-- The conditions on the key columns one by one are decided by the images of the cells. -/
theorem keyParts_decide {places : List Nat} {rowA rowB heldA heldB : Row}
    (keys : ∀ i ∈ places, ∃ key, t.KeyAt i key)
    (convertedA : convertRow t.columns rowA = .ok heldA)
    (convertedB : convertRow t.columns rowB = .ok heldB) :
    ∃ parts, ((places.filterMap fun i => t.columns[i]?).zip (places.map rowB.cell)).mapM
        (fun (key, value) => Filter.hasKeyValue key value) = .ok parts ∧
      List.Forall₂ (fun f p => t.Decides heldA f p) parts
        (places.map fun i => (heldA.cell i).keyImage = (heldB.cell i).keyImage) := by
  induction places with
  | nil => exact ⟨[], rfl, .nil⟩
  | cons i rest ih =>
    obtain ⟨key, here⟩ := keys i List.mem_cons_self
    obtain ⟨parts, later, decided⟩ := ih fun j inside => keys j (List.mem_cons_of_mem i inside)
    have left := Row.cell_of_convertRow convertedA here.column
    have right := Row.cell_of_convertRow convertedB here.column
    refine ⟨Filter.keyPart key (heldB.cell i) :: parts, ?_, ?_⟩
    · rw [List.filterMap_cons, here.column]
      dsimp only
      rw [List.map_cons, List.zip_cons_cons, List.mapM_cons, later,
        Filter.hasKeyValue_eq here.parsed here.known right]
      rfl
    · rw [List.map_cons]
      refine .cons (keyPart_decides here ?_ ?_) decided
      · exact Value.belongs_of_convert? (Value.convert_eq_ok.mp left)
      · exact Value.belongs_of_convert? (Value.convert_eq_ok.mp right)

/-- The condition that some key columns have the cells of a row is decided by the keys of the
converted rows. -/
theorem hasKey_decides {places : List Nat} {rowA rowB heldA heldB : Row}
    (keys : ∀ i ∈ places, ∃ key, t.KeyAt i key)
    (convertedA : convertRow t.columns rowA = .ok heldA)
    (convertedB : convertRow t.columns rowB = .ok heldB) :
    ∃ filter, Filter.hasKey (places.filterMap fun i => t.columns[i]?) (places.map rowB.cell) =
        .ok filter ∧
      t.Decides heldA filter (heldA.key places = heldB.key places) := by
  have length : (places.filterMap fun i => t.columns[i]?).length =
      (places.map rowB.cell).length := by
    rw [List.length_map, List.filterMap_length_eq_length]
    intro i member
    obtain ⟨key, here⟩ := keys i member
    rw [here.column]
    rfl
  obtain ⟨parts, made, decided⟩ := keyParts_decide keys convertedA convertedB
  refine ⟨Filter.whole parts, ?_, ?_⟩
  · rw [Filter.hasKey_eq length, made]
    rfl
  · apply (whole_decides decided).congr
    rw [Row.key_eq_iff, List.forall_mem_map]

end Table

namespace Session

/-- A key column of an opened session, as a table of the same columns has it. -/
theorem keyAt_of_start {d : Dialect} {table : String} {columns : List Column}
    {names : List String} {mode : WriteMode} {s : Session}
    (start : start d table columns names mode = .ok s)
    (plain : ∀ c ∈ columns, '.' ∉ c.name.toList ∧ trim c.name = c.name) (exact : s.ExactKeys)
    {t : Table} (same : t.columns = columns) {i : Nat} (member : i ∈ s.search) :
    ∃ key, t.KeyAt i key := by
  obtain ⟨search, checked, located, -, rfl⟩ := start_spec start
  obtain ⟨named, apart⟩ := names_of_checkColumns checked
  have inside : i < columns.length := within_of_locate located nofun i member
  have column : columns[i]? = some columns[i] := List.getElem?_eq_getElem inside
  have among : columns[i] ∈ columns := List.getElem_mem inside
  obtain ⟨undotted, trimmed⟩ := plain _ among
  refine ⟨columns[i], by rwa [same], ?_, ?_, ?_, ?_⟩
  · exact ColumnPath.parse_of_plain (named _ among).1 undotted trimmed
  · have found : t.columns.findIdx? (fun c => sameName c.name columns[i].name) = some i := by
      rw [same, List.findIdx?_eq_some_iff_getElem]
      refine ⟨inside, beq_self_eq_true _, fun j before => ?_⟩
      have differs := List.pairwise_iff_getElem.mp apart j i (before.trans inside) inside before
      simp [differs]
    simp only [Table.position, ColumnPath.isQualified, ColumnPath.name, List.getLast?_singleton,
      Option.getD_some, found]
    rfl
  · exact typed_of_checkColumns checked _ among
  · exact exact i member _ column

/-- The staged rows and the stored rows of a session agree on what the same key is: a row of any
values is found among the staged rows where one other row is staged exactly if the condition on its
key is true of the row that a table of the same columns keeps for that other row. A cell that a row
lacks counts as NULL. -/
theorem staged_iff_matched (b : Builtin) {table : String} {columns : List Column}
    {names : List String} {mode : WriteMode} {s : Session}
    (start : Session.start b.dialect table columns names mode = .ok s) (searched : names ≠ [])
    (plain : ∀ c ∈ columns, '.' ∉ c.name.toList ∧ trim c.name = c.name) (exact : s.ExactKeys)
    {rowA rowB old new : Row} (preparedA : s.prepareRow rowA = .ok old)
    (preparedB : s.prepareRow rowB = .ok new) {t : Table} (same : t.columns = columns) :
    ∃ held filter verdict, Table.convertRow columns rowA = .ok held ∧
      Filter.hasKey (s.columnsAt s.search) (s.search.map rowB.cell) = .ok filter ∧
      t.test held filter = .ok verdict ∧
      ((Staging.empty s.search).push old).find? new =
        if verdict = some true then some 0 else none := by
  obtain ⟨dialect, -, sameColumns, -, -⟩ := start_eq_ok start
  have some_key : s.search ≠ [] := by
    obtain ⟨search, -, located, -, rfl⟩ := start_spec start
    exact locate_ne_nil located (.inr searched)
  have keys : ∀ i ∈ s.search, ∃ key, t.KeyAt i key := fun i member =>
    keyAt_of_start start plain exact same member
  have converted {row ready : Row} (prepared : s.prepareRow row = .ok ready) :
      ∃ held, Table.convertRow t.columns row = .ok held ∧ ready = held.map b.form := by
    rw [b.prepareRow_eq dialect, sameColumns, ← same] at prepared
    cases h : Table.convertRow t.columns row with
    | error f => simp [h, Except.map] at prepared
    | ok held =>
      rw [h] at prepared
      exact ⟨held, rfl, (Except.ok.inj prepared).symm⟩
  obtain ⟨heldA, convertedA, rfl⟩ := converted preparedA
  obtain ⟨heldB, convertedB, rfl⟩ := converted preparedB
  obtain ⟨filter, made, verdict, tested, decided⟩ := Table.hasKey_decides keys convertedA convertedB
  have prepared_key : Row.key s.search (heldB.map b.form) = Row.key s.search (heldA.map b.form) ↔
      heldA.key s.search = heldB.key s.search := by
    have null : b.form .null = .null := by cases b <;> rfl
    rw [eq_comm, Row.key_eq_iff, Row.key_eq_iff]
    refine forall₂_congr fun i member => ?_
    obtain ⟨key, here⟩ := keys i member
    rw [Row.cell_map null, Row.cell_map null]
    apply b.keyImage_form here.known
    · exact Value.belongs_of_convert? (Value.convert_eq_ok.mp
        (Row.cell_of_convertRow convertedA here.column))
    · exact Value.belongs_of_convert? (Value.convert_eq_ok.mp
        (Row.cell_of_convertRow convertedB here.column))
  refine ⟨heldA, filter, verdict, same ▸ convertedA, ?_, tested, ?_⟩
  · rw [columnsAt, sameColumns, ← same]
    exact made
  · simp only [Staging.find?, Staging.push, Staging.empty, List.isEmpty_iff, some_key, if_false,
      List.length_nil, List.lookup_cons, List.lookup_nil, decided, ← prepared_key]
    split <;> simp_all

/-- A table of prices, each known by an amount and an article. -/
def prices : Session where
  dialect := Builtin.sqlite.dialect
  table := "Prices"
  columns := [.of "Id" .guid, .of "Price" .money, .of "Name" .string]
  mode := .insertOrUpdate
  search := [1, 0]
  other := [2]
  batchSize := 333
  maxStaged := 10000
  staging := .empty [1, 0]
  update := none
  summary := {}

theorem start_prices :
    Session.start Builtin.sqlite.dialect "Prices"
      [.of "Id" .guid, .of "Price" .money, .of "Name" .string] ["Price", "Id"]
      .insertOrUpdate = .ok prices := by
  have named : isAllBlank "Prices" = false := by decide +kernel
  have checked : checkColumns "Prices" []
      [.of "Id" .guid, .of "Price" .money, .of "Name" .string] = .ok () := by
    decide +kernel
  have located : locate "Prices" [.of "Id" .guid, .of "Price" .money, .of "Name" .string] []
      ["Price", "Id"] = .ok [1, 0] := by
    decide +kernel
  simp only [Session.start, named, checked, located]
  rfl

/-- One and a half, with two places and with one. -/
def oneFifty : Decimal := ⟨false, 150, 2, by decide, by decide, by decide⟩

def oneFive : Decimal := ⟨false, 15, 1, by decide, by decide, by decide⟩

/-- A price without an article is found under an amount with other places, staged and stored. -/
theorem staged_iff_matched_prices :
    ((Staging.empty [1, 0]).push [.null, .money oneFifty, .string "Ann"]).find?
      [.null, .money oneFive, .string "Bob"] = some 0 ∧
    ∃ held filter,
      Table.convertRow prices.columns [.null, .money oneFifty, .string "Ann"] = .ok held ∧
      Filter.hasKey (prices.columnsAt [1, 0]) [.money oneFive, .null] = .ok filter ∧
      (Table.mk "Prices" prices.columns []).test held filter = .ok (some true) := by
  have plain : ∀ c ∈ prices.columns, '.' ∉ c.name.toList ∧ trim c.name = c.name := by
    decide +kernel
  have exact : prices.ExactKeys := by
    intro i member c column
    rcases List.mem_pair.mp member with rfl | rfl <;> cases column <;> decide
  have preparedA : prices.prepareRow [.null, .money oneFifty, .string "Ann"] =
      .ok [.null, .money oneFifty, .string "Ann"] := by
    decide +kernel
  have preparedB : prices.prepareRow [.null, .money oneFive, .string "Bob"] =
      .ok [.null, .money oneFive, .string "Bob"] := by
    decide +kernel
  have staged : ((Staging.empty [1, 0]).push [.null, .money oneFifty, .string "Ann"]).find?
      [.null, .money oneFive, .string "Bob"] = some 0 := by
    decide +kernel
  obtain ⟨held, filter, verdict, converted, made, tested, found⟩ :=
    staged_iff_matched .sqlite start_prices (List.cons_ne_nil _ _) plain exact preparedA preparedB
      (t := ⟨"Prices", prices.columns, []⟩) rfl
  refine ⟨staged, held, filter, converted, made, ?_⟩
  rw [show prices.search = [1, 0] from rfl, staged] at found
  split at found
  · rename_i holds
    rw [← holds]
    exact tested
  · cases found

end Session

end SqlScribe

import SqlScribe.Proofs.Literal.Prepared
import SqlScribe.Proofs.Writer.IdealTable

/-!
# Rows that are prepared twice

A writer prepares a row when it takes it, and the INSERT that the row ends up in prepares its values
once more, or writes them as literals. The second preparation changes nothing and the literals are
those of the values as they were given, so the INSERT is the one of the rows as they were given.
What SQLite binds for a column is read back as the value that the column was given.
-/

namespace SqlScribe

namespace Dialect

/-- What the dialect binds for a value is written as the literal of the value. -/
def WritesPrepared (d : Dialect) : Prop :=
  ∀ v p type, d.prepare v type = .ok p → d.literal p type = d.literal v type

/-- SQLite reads the form that it binds a value of a column in as the value. -/
theorem Sqlite.convert?_bound {v : Value} {type : ColumnType} (known : type ≠ .unknown)
    (belongs : v.belongs type = true) : (bound v).convert? type = some v := by
  cases v with
  | guid g =>
    cases type with
    | guid =>
      change (Guid.ofBlob? g.toBlob).map Value.guid = some (.guid g)
      rw [Guid.ofBlob?_toBlob]
      rfl
    | unknown => exact absurd rfl known
    | _ => cases belongs
  | _ => exact Value.convert?_of_belongs belongs

end Dialect

namespace Builtin

/-- A prepared value is the converted value in the form of the dialect. -/
theorem exists_of_prepare {b : Builtin} {v p : Value} {type : ColumnType}
    (prepared : b.dialect.prepare v type = .ok p) :
    ∃ u, v.convert? type = some u ∧ u.belongs type = true ∧ p = b.form u := by
  rw [b.prepare_eq] at prepared
  cases converted : v.convert type with
  | error fault =>
    rw [converted] at prepared
    cases prepared
  | ok u =>
    rw [converted] at prepared
    cases prepared
    have found := Value.convert_eq_ok.mp converted
    exact ⟨u, found, Value.belongs_of_convert? found, rfl⟩

theorem writesPrepared (b : Builtin) : b.dialect.WritesPrepared := by
  intro v p type prepared
  obtain ⟨u, converted, belongs, rfl⟩ := exists_of_prepare prepared
  rw [b.literal_form belongs]
  exact Dialect.literal_of_convert? converted

/-- SQLite corrects what it has bound for a column to what the value converts to. -/
theorem correct_prepared {v p : Value} {type : ColumnType} (known : type ≠ .unknown)
    (prepared : sqlite.dialect.prepare v type = .ok p) :
    sqlite.dialect.correct p type = v.convert type := by
  obtain ⟨u, converted, belongs, rfl⟩ := exists_of_prepare prepared
  rw [Value.convert_eq_ok.mpr converted]
  exact Value.convert_eq_ok.mpr (Dialect.Sqlite.convert?_bound known belongs)

/-- A value that a built-in dialect has prepared for a type is prepared for it as it is, and has the
literal of the value that was prepared. SQLite corrects it to what that value converts to, unless
the type is not known. -/
theorem prepare_idempotent (b : Builtin) {v p : Value} {type : ColumnType}
    (prepared : b.dialect.prepare v type = .ok p) :
    b.dialect.prepare p type = .ok p ∧
    b.dialect.literal p type = b.dialect.literal v type ∧
    (b = sqlite → type ≠ .unknown → b.dialect.correct p type = v.convert type) := by
  refine ⟨b.settles v p type prepared, b.writesPrepared v p type prepared, ?_⟩
  rintro rfl known
  exact correct_prepared known prepared

/-- SQLite binds an identifier that is given as text as its bytes, the first groups reversed, and
reads the identifier back from them. -/
theorem prepare_idempotent_identifier :
    let text : Value := .string "\x7b00112233-4455-6677-8899-aabbccddeeff\x7d"
    let blob : Value := .binary [0x33, 0x22, 0x11, 0x00, 0x55, 0x44, 0x77, 0x66,
      0x88, 0x99, 0xaa, 0xbb, 0xcc, 0xdd, 0xee, 0xff]
    sqlite.dialect.prepare text .guid = .ok blob ∧
    sqlite.dialect.prepare blob .guid = .ok blob ∧
    sqlite.dialect.literal blob .guid = .ok "X'33221100554477668899AABBCCDDEEFF'" ∧
    sqlite.dialect.correct blob .guid = .ok (.guid ⟨[0x00, 0x11, 0x22, 0x33, 0x44, 0x55, 0x66, 0x77,
      0x88, 0x99, 0xaa, 0xbb, 0xcc, 0xdd, 0xee, 0xff], by decide⟩) := by
  intro text blob
  have prepared : sqlite.dialect.prepare text .guid = .ok blob := by decide +kernel
  obtain ⟨again, written, corrected⟩ := prepare_idempotent sqlite prepared
  refine ⟨prepared, again, ?_, ?_⟩
  · rw [written]
    decide +kernel
  · rw [corrected rfl (by decide)]
    decide +kernel

end Builtin

/-- A prepared value is written as the value that was prepared. -/
theorem Emit.value_of_prepared {d : Dialect} (settles : d.Settles) (writes : d.WritesPrepared)
    {v p : Value} {type : ColumnType} (prepared : d.prepare v type = .ok p) :
    Emit.value d p type = Emit.value d v type := by
  simp only [Emit.value, writes v p type prepared, settles v p type prepared, prepared]

/-- Prepared rows are written as the rows that were prepared. -/
theorem Insert.emitRows_congr {d : Dialect} {columns : List Column} {rows ready : List Row}
    (same : List.Forall₂ (fun row new => new.length = row.length ∧
      emitCells d (new.zip columns) = emitCells d (row.zip columns)) rows ready) (index : Nat) :
    emitRows d columns index ready = emitRows d columns index rows := by
  induction same generalizing index with
  | nil => rfl
  | cons head _ ih =>
    obtain ⟨width, cells⟩ := head
    simp only [emitRows, width, cells, ih]

namespace Session

variable {s : Session}

theorem emitCells_of_prepared (settles : s.dialect.Settles) (writes : s.dialect.WritesPrepared)
    {row new : Row} (width : row.length = s.columns.length)
    (prepared : s.prepareRow row = .ok new) :
    Insert.emitCells s.dialect (new.zip s.columns) =
      Insert.emitCells s.dialect (row.zip s.columns) := by
  obtain ⟨length, cells⟩ := (prepareRow_eq_ok width).mp prepared
  unfold Insert.emitCells
  congr 1
  apply List.ext_getElem
  · simp [length, width]
  · intro i bound _
    simp only [List.length_map, List.length_zip, length, Nat.min_self] at bound
    simp only [List.getElem_map, List.getElem_zip]
    exact Emit.value_of_prepared settles writes (cells i (by omega) bound (by omega))

/-- The INSERT of prepared rows is the INSERT of the rows as they were given. -/
theorem batchInsert_prepared (b : Builtin) (dialect : s.dialect = b.dialect)
    {rows ready : List Row} (width : ∀ row ∈ rows, row.length = s.columns.length)
    (prepared : rows.mapM s.prepareRow = .ok ready) :
    s.batchInsert ready = s.batchInsert rows := by
  have settles : s.dialect.Settles := dialect ▸ b.settles
  have writes : s.dialect.WritesPrepared := dialect ▸ b.writesPrepared
  have pairs := (List.forall₂_and_left rows ready).mpr ⟨width, mapM_eq_ok_iff.mp prepared⟩
  have same := pairs.imp fun row new both =>
    And.intro (((prepareRow_eq_ok both.1).mp both.2).1.trans both.1.symm)
      (emitCells_of_prepared settles writes both.1 both.2)
  have count : ready.length = rows.length := same.length_eq.symm
  have none : ready.isEmpty = rows.isEmpty := by
    cases same with
    | nil => rfl
    | cons => rfl
  simp only [batchInsert, Insert.compile, Insert.emit, Insert.check, none, count,
    Insert.emitRows_congr same]

end Session

end SqlScribe

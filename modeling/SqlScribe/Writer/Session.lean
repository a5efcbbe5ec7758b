import SqlScribe.Statement.Update
import SqlScribe.Writer.Executor
import SqlScribe.Writer.Mode
import SqlScribe.Writer.Staging

/-!
# Writing sessions

A session writes rows into one table. Appended rows are staged and flushed together, through the
bulk load of the database or in batches of INSERT; changed rows go through one prepared UPDATE.

To insert or update a row, a staged row of the same key is changed in place if there is one; if
there is none the UPDATE runs; and if that touches nothing the row is staged.
-/

namespace SqlScribe

open SqlScribe.Text

/-- What became of a written row. -/
inductive WriteOutcome
  | staged
  | merged
  | updated (rows : UInt64)
  | unmatched
deriving DecidableEq

/-- The counters of a session. -/
structure Summary where
  inserted : UInt64 := 0
  updated : UInt64 := 0
  merged : UInt64 := 0
  unmatched : UInt64 := 0
  flushes : UInt64 := 0
deriving DecidableEq

/-- A writing session. -/
structure Session where
  dialect : Dialect
  table : String
  columns : List Column
  mode : WriteMode
  /-- The places of the key columns. -/
  search : List Nat
  /-- The places of all other columns, which an UPDATE sets. -/
  other : List Nat
  batchSize : Nat
  /-- So many staged rows are flushed. -/
  maxStaged : Nat
  staging : Staging
  update : Option PreparedUpdate
  summary : Summary

namespace Session

/-- Every column makes sense, and no two have the same name. -/
def checkColumns (table : String) (seen : List Column) : List Column → Except Fault Unit
  | [] => .ok ()
  | c :: rest => do
    c.validate
    if seen.any fun other => sameName other.name c.name then
      .error (.invalid (.columnTwice c.name table))
    checkColumns table (seen ++ [c]) rest

/-- The places of the columns that have given names, each once. -/
def locate (table : String) (columns : List Column) (found : List Nat) :
    List String → Except Fault (List Nat)
  | [] => .ok found
  | name :: rest =>
    match columns.findIdx? fun c => sameName c.name name with
    | none => .error (.invalid (.noSuchSearchColumn name table))
    | some i => locate table columns (if found.contains i then found else found ++ [i]) rest

/-- Opens a session. Unless it only inserts, it needs a key column and another one. -/
def start (dialect : Dialect) (table : String) (columns : List Column) (searchNames : List String)
    (mode : WriteMode) : Except Fault Session := do
  if isAllBlank table then .error (.invalid .emptyTableName)
  if columns.isEmpty then .error (.invalid (.nothingToWrite table))
  checkColumns table [] columns
  let search ← locate table columns [] searchNames
  let other := (List.range columns.length).filter fun i => !search.contains i
  if mode ≠ .insert then
    if search.isEmpty then .error (.invalid (.noSearchColumn mode table))
    if other.isEmpty then .error (.invalid (.noColumnToSet mode table))
  return {
    dialect, table, columns, mode, search, other
    batchSize := dialect.features.batchRows columns.length
    maxStaged := 10000
    staging := .empty search
    update := none
    summary := {} }

/-- The session with another number of rows for each INSERT, as far as the dialect allows. -/
def withBatchSize (s : Session) (rows : Nat) : Session :=
  { s with batchSize := min (max rows 1) (s.dialect.features.batchRows s.columns.length) }

/-- The session with another number of staged rows that are flushed. -/
def withMaxStaged (s : Session) (rows : Nat) : Session := { s with maxStaged := max rows 1 }

/-- The number of rows waiting for the next flush. -/
def staged (s : Session) : Nat := s.staging.rows.length

/-- A row has a cell for every column. -/
def checkRow (s : Session) (row : Row) : Except Fault Unit :=
  if row.length ≠ s.columns.length then
    .error (.invalid (.rowWidth row.length s.columns.length s.table))
  else .ok ()

/-- A row as the database takes it. -/
def prepareRow (s : Session) (row : Row) : Except Fault Row :=
  (row.zip s.columns).mapM fun (value, column) => s.dialect.prepare value column.type

/-- The columns at some places. -/
def columnsAt (s : Session) (places : List Nat) : List Column :=
  places.filterMap fun i => s.columns[i]?

/-- The cells of a row at some places. -/
def cellsAt (row : Row) (places : List Nat) : List Value := places.filterMap fun i => row[i]?

end Session

/-- A step of a session that may call an executor. What it changed before it fails stays changed. -/
abbrev Writing (σ α : Type) := ExceptT Fault (StateT Session (StateM σ)) α

namespace Writing

variable {σ α : Type}

/-- A call to the executor. -/
def ask (call : Answer σ α) : Writing σ α := ExceptT.mk (liftM call.run)

/-- How a step ends. Others follow it whether or not it succeeds. -/
def outcome (step : Writing σ α) : Writing σ (Except Fault α) :=
  ExceptT.mk (Except.ok <$> step.run)

/-- A result that may have failed without a call. -/
def attempt (x : Except Fault α) : Writing σ α := ExceptT.mk (pure x)

end Writing

namespace Session

open Writing

variable {σ : Type}

/-- Counts rows that the database has taken. -/
def countLoad (s : Session) (rows : UInt64) : Session :=
  { s with summary :=
      { s.summary with
        inserted := s.summary.inserted + rows
        flushes := s.summary.flushes + 1 } }

/-- Counts updated rows. -/
def countUpdated (n : UInt64) : Writing σ WriteOutcome := do
  modify fun s => { s with summary := { s.summary with updated := s.summary.updated + n } }
  return .updated n

/-- Stages a prepared row. -/
def stage (row : Row) : Writing σ WriteOutcome := do
  modify fun s => { s with staging := s.staging.push row }
  return .staged

/-- The prepared UPDATE, made when it is needed first. -/
def preparedUpdate : Writing σ PreparedUpdate := do
  let s ← get
  match s.update with
  | some p => return p
  | none =>
    let p ← attempt
      (PreparedUpdate.prepare s.dialect s.table (s.columnsAt s.other) (s.columnsAt s.search))
    set { s with update := some p }
    return p

end Session

namespace Backend

open Session Writing

variable {σ : Type}

/-- Writes rows as one INSERT each batch; the answer is the number of rows written. -/
def insertBatches (x : Backend σ) (s : Session) (total : UInt64) :
    List (List Row) → Answer σ UInt64
  | [] => pure total
  | batch :: rest => do
    let statement ← ExceptT.mk (pure
      (Insert.compile s.dialect s.dialect.preferredMode ⟨s.table, s.columns, batch⟩))
    match ← x.insert batch statement with
    | some n => x.insertBatches s (total + n) rest
    | none => throw (.uncounted .insert s.table)

/-- Hands rows over to the database. -/
def load (x : Backend σ) (s : Session) (rows : List Row) : Answer σ UInt64 :=
  if s.dialect.features.bulkLoad then
    x.bulkLoad ⟨s.table, s.columns, rows, !s.search.isEmpty⟩
  else x.insertBatches s 0 (inGroups s.batchSize rows)

/-- Writes all staged rows. They are taken out of the session while they are handed over, and put
back with their index if that fails. -/
def flush (x : Backend σ) : Writing σ UInt64 := do
  let taken := (← get).staging
  if taken.rows.isEmpty then return 0
  modify fun s => { s with staging := taken.clear }
  match ← outcome (ask (x.load (← get) taken.rows)) with
  | .ok written =>
    modify fun s => s.countLoad written
    return written
  | .error fault =>
    modify fun s => { s with staging := taken }
    throw fault

/-- Flushes if too many rows are staged. -/
def relieve (x : Backend σ) : Writing σ Unit := do
  if (← get).maxStaged ≤ (← get).staged then discard x.flush

/-- Runs the UPDATE for a row; the answer is the number of rows it touched. -/
def runUpdate (x : Backend σ) (row : Row) : Writing σ UInt64 := do
  let p ← preparedUpdate
  let s ← get
  let statement ← attempt (p.bind s.dialect (cellsAt row s.other) (cellsAt row s.search))
  match ← ask (x.update (cellsAt row s.other) (cellsAt row s.search) statement) with
  | some n => return n
  | none => throw (.uncounted .update s.table)

/-- Takes a row that is to be appended. -/
def placeInsert (row : Row) : Writing σ WriteOutcome := do
  stage (← attempt ((← get).prepareRow row))

/-- Takes a row whose stored rows are to be changed. -/
def placeUpdate (x : Backend σ) (row : Row) : Writing σ WriteOutcome := do
  let n ← x.runUpdate row
  if n = 0 then
    modify fun s =>
      { s with summary := { s.summary with unmatched := s.summary.unmatched + 1 } }
    return .unmatched
  else countUpdated n

/-- Takes a row whose stored rows are to be changed, or which is to be appended if there are
none. -/
def placeUpsert (x : Backend σ) (row : Row) : Writing σ WriteOutcome := do
  let s ← get
  let prepared ← attempt (s.prepareRow row)
  match s.staging.find? prepared with
  | some position =>
    set { s with
      staging := s.staging.overwrite position s.other prepared
      summary := { s.summary with merged := s.summary.merged + 1 } }
    return .merged
  | none =>
    let n ← x.runUpdate row
    if 0 < n then countUpdated n else stage prepared

/-- Takes one row, its cells in column order, and puts it where it belongs. -/
def place (x : Backend σ) (row : Row) : Writing σ WriteOutcome := do
  let s ← get
  attempt (s.checkRow row)
  match s.mode with
  | .insert => placeInsert row
  | .update => x.placeUpdate row
  | .insertOrUpdate => x.placeUpsert row

/-- Writes one row. A row that is staged may be one too many. -/
def write (x : Backend σ) (row : Row) : Writing σ WriteOutcome := do
  let outcome ← x.place row
  if outcome = .staged then x.relieve
  return outcome

/-- Writes rows one by one; the answer is their number. -/
def writeEach (x : Backend σ) (count : UInt64) : List Row → Writing σ UInt64
  | [] => return count
  | row :: rest => do
    discard (x.write row)
    x.writeEach (count + 1) rest

/-- Writes many rows. A session that only inserts flushes and then hands them over directly. -/
def writeAll (x : Backend σ) (rows : List Row) : Writing σ UInt64 := do
  if (← get).mode ≠ .insert then x.writeEach 0 rows
  else
    discard x.flush
    let s ← get
    let prepared ← attempt (rows.mapM fun row => do
      s.checkRow row
      s.prepareRow row)
    if prepared.isEmpty then return 0
    let written ← ask (x.load s prepared)
    set (s.countLoad written)
    return written

/-- Writes what is staged and gives the counters. -/
def finish (x : Backend σ) : Writing σ Summary := do
  discard x.flush
  return (← get).summary

end Backend

namespace Session

variable {σ : Type}

/-- Writes all staged rows; they stay staged if that fails. -/
def flush (x : Executor σ) : Writing σ UInt64 := x.backend.flush

/-- Writes one row, its cells in column order. -/
def write (x : Executor σ) (row : Row) : Writing σ WriteOutcome := x.backend.write row

/-- Writes many rows. A session that only inserts flushes and then hands them over directly. -/
def writeAll (x : Executor σ) (rows : List Row) : Writing σ UInt64 := x.backend.writeAll rows

/-- Writes what is staged and gives the counters. -/
def finish (x : Executor σ) : Writing σ Summary := x.backend.finish

end Session

end SqlScribe

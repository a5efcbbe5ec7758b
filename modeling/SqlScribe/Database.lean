import SqlScribe.Connection
import SqlScribe.Statement.Filter
import SqlScribe.Table.Query
import SqlScribe.Writer.Session

/-!
# A database in memory

A new SQLite database that no one else uses: tables are made in it, filled and read back. Nothing
but the catalog is there at the beginning.

What comes back is what the driver makes of the storage types. A computed column and an amount of
money come back as NULL, an integer with its low 32 bits, and a truth value or a time not at all.
-/

namespace SqlScribe

open SqlScribe.Text

/-- A database in memory: its tables, their rows as they are stored. -/
structure Database where
  tables : List Table

namespace Database

/-- The dialect in which the database is spoken to. -/
def dialect : Dialect := Builtin.sqlite.dialect

/-- The fault of a statement that the database refuses. -/
def refused (reason : String) : Fault :=
  .database ("error returned from database: (code: 1) " ++ reason)

/-- The catalog, which lists nothing. -/
def catalog : Table :=
  ⟨"sqlite_master",
    [.of "type" .string, .of "name" .string, .of "tbl_name" .string, .of "rootpage" .integer,
      .of "sql" .string],
    []⟩

/-- The database as it is at the beginning. -/
def empty : Database := ⟨[]⟩

/-- Opens the database that a URL leads to. There is only the one in memory. -/
def connect (url : String) : Except Fault Database := do
  match ← Connection.dialectOf url with
  | .sqlite =>
    let path := (splitAt '?' (.ofList (url.toList.drop 7))).headD ""
    if path = ":memory:" ∨ path = "//:memory:" then return empty
    else .error (.connection
      "error returned from database: (code: 14) unable to open database file")
  | _ => .error (.connection "pool timed out while waiting for an open connection")

/-- The parts of a table's name. -/
def nameParts (table : String) : List String := (splitAt '.' table).map trim

/-- The table that a name leads to. -/
def find (db : Database) (table : String) : Except Fault Table :=
  let parts := nameParts table
  let local? := match parts with
    | [name] => some name
    | [schema, name] => if sameName schema "main" then some name else none
    | _ => none
  match local?.bind fun name => (catalog :: db.tables).find? fun t => sameName t.name name with
  | some t => .ok t
  | none =>
    if 2 < parts.length then .error (refused "near \".\": syntax error")
    else .error (refused ("no such table: " ++ join "." parts))

/-- No two columns have the same name. -/
def checkNames : List Column → Except Fault Unit
  | [] => .ok ()
  | c :: rest =>
    match rest.find? fun other => sameName other.name c.name with
    | some other => .error (refused ("duplicate column name: " ++ other.name))
    | none => checkNames rest

/-- Makes a table with the storage type of every column. -/
def create (db : Database) (name : String) (columns : List Column) : Except Fault Database := do
  columns.forM fun c => do
    c.validate
    discard (dialect.identifier c.name)
    discard (dialect.storageType c)
  discard (dialect.identifier name)
  if columns.isEmpty then .error (refused "near \")\": syntax error")
  if (lowerLetters name).startsWith "sqlite_" then
    .error (refused ("object name reserved for internal use: " ++ name))
  if db.tables.any fun t => sameName t.name name then
    .error (refused ("table \"" ++ name ++ "\" already exists"))
  checkNames columns
  return ⟨db.tables ++ [⟨name, columns, []⟩]⟩

/-- A value as it is stored: an amount as a number, zero without a sign, and NULL for what is no
number. -/
def stored : Value → Value
  | .money d => .money d
  | .float x => if x.isNaN then .null else if x.equals .zero then .float .zero else .float x
  | v => Connection.sent v

/-- A row as it is stored. -/
def storedRow (columns : List Column) (row : Row) : Except Fault Row :=
  (row.zip columns).mapM fun (value, column) => do
    return stored (← dialect.prepare value column.type)

/-- Appends rows to a table, in column order, as one INSERT does it. -/
def insert (db : Database) (i : Insert) : Except Fault Database := do
  discard (i.compile dialect dialect.preferredMode)
  let t ← db.find i.table
  if sameName t.name catalog.name then
    .error (refused ("table " ++ catalog.name ++ " may not be modified"))
  let rows ← i.rows.mapM (storedRow i.columns)
  return ⟨db.tables.map fun other =>
    if sameName other.name t.name then { other with rows := other.rows ++ rows } else other⟩

/-- Appends rows to a table in batches. What the first batches stored stays if a later one fails. -/
def load (db : Database) (table : String) (columns : List Column) (count : Nat) :
    List (List Row) → Except Fault Nat × Database
  | [] => (.ok count, db)
  | batch :: rest =>
    match db.insert ⟨table, columns, batch⟩ with
    | .ok db => db.load table columns (count + batch.length) rest
    | .error fault => (.error fault, db)

/-- Appends rows to a table and tells their number. -/
def bulkLoad (db : Database) (table : String) (columns : List Column) (rows : List Row) :
    Except Fault Nat × Database :=
  db.load table columns 0 (inGroups (dialect.features.batchRows columns.length) rows)

/-- The place of the column that an expression is, if it is one. -/
def place (t : Table) (e : Expr) : Option Nat :=
  e.asColumn?.bind fun path => t.columns.findIdx? fun c => sameName c.name path.name

/-- The cell of a row at a place; what has no place is computed and counts as NULL. -/
def cellAt (row : Row) (place : Option Nat) : Value :=
  (place.bind fun i => row[i]?).getD .null

/-- What a row is sorted by. -/
def sortKey (t : Table) (row : Row) (order : Order) : SortKey :=
  order.map fun term =>
    let v := cellAt row (place t term.expr)
    match term.substitute with
    | some (.constant c) => if v.isNull then c.value else v
    | _ => v

/-- The places of the result columns, with their names. -/
def resultColumns (t : Table) (q : Select) : List (Option Nat × String) :=
  if q.columns.isEmpty then t.columns.zipIdx.map fun (c, i) => (some i, c.name)
  else
    q.columns.items.map fun n =>
      let i := place t n.expr
      let declared := (i.bind fun i => t.columns[i]?).map Column.name
      (i, if n.needsAlias then n.label else declared.getD n.label)

/-- The rows of a query as they are stored: sorted, projected, freed of repetitions and cut off. -/
def storedResult (t : Table) (q : Select) : Except Fault (List Row) := do
  let places := (resultColumns t q).map (·.1)
  if q.columns.aggregates then
    return if q.groupBy.isEmpty then [places.map fun _ => .null] else []
  let found ← match q.filter with
    | some f => t.filter f
    | none => pure t.rows
  let order := q.ordering?.getD []
  let directions := order.map (·.direction)
  let sorted := stableSort
    (fun a b => SortKey.compare directions (sortKey t a order) (sortKey t b order)) found
  let projected := sorted.map fun row => places.map (cellAt row)
  let rows := if q.distinct then Row.distinct projected else projected
  return if 0 < q.maxRows then rows.take q.maxRows else rows

/-- The fault of a cell that the driver cannot take over. -/
def undecodable : Fault := .database "error decoding a column: the type is not supported"

/-- A cell as the driver gives it; `none` stands for a computed column. -/
def decode (type : Option ColumnType) (v : Value) : Except Fault Value :=
  match type with
  | none | some .money => .ok .null
  | some .boolean | some .date | some .time | some .dateTime => .error undecodable
  | some _ =>
    match v with
    | .null => .error undecodable
    | .int n => .ok (.int n.toInt32.toInt64)
    | v => .ok v

/-- A cell with the type that is expected of it. -/
def correct (type : ColumnType) (v : Value) : Except Fault Value :=
  if type = .unknown then .ok v else dialect.correct v type

/-- Corrects the leading cells of a row for which a type is expected. -/
def correctRow : List ColumnType → Row → Except Fault Row
  | type :: types, v :: rest => do
    let v ← correct type v
    return v :: (← correctRow types rest)
  | _, row => .ok row

/-- Runs a query. `cap` limits the number of rows that are taken over; an empty result has no
columns. -/
def fetch (db : Database) (q : Select) (types : List ColumnType) (cap : Option Nat) :
    Except Fault ResultSet := do
  discard (q.compile dialect dialect.preferredMode)
  let t ← db.find q.table
  let columns := resultColumns t q
  let columnTypes := columns.map fun (i, _) => (i.bind fun i => t.columns[i]?).map Column.type
  let columnTypes := if q.columns.aggregates then columnTypes.map fun _ => none else columnTypes
  let decoded ← (← storedResult t q).mapM fun row =>
    (columnTypes.zip row).mapM fun (type, v) => decode type v
  if decoded.isEmpty then return ⟨[], []⟩
  let taken := (cap.map decoded.take).getD decoded
  return ⟨columns.map (·.2), ← taken.mapM (correctRow types)⟩

/-- The executor of a writing session: as long as no table was made, every statement is refused. -/
def executor (table : String) : Executor Database where
  execute _ := do
    let db ← get
    match db.find table with
    | .error fault => throw fault
    | .ok t => throw (refused ("table " ++ t.name ++ " may not be modified"))
  bulkLoad load := do
    let db ← get
    let (outcome, after) := db.bulkLoad load.table load.columns load.rows
    set after
    match outcome with
    | .ok count => return .ofNat count
    | .error fault => throw fault

end Database

end SqlScribe

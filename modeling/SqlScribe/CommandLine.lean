import SqlScribe.CommandLine.Arguments
import SqlScribe.CommandLine.Layout
import SqlScribe.Configuration
import SqlScribe.Database
import SqlScribe.Document.Select

/-!
# The command line

Compiles queries, lists dialects, and runs queries or writes rows in a database. What it needs from
the outside is handed to it, so that the same commands run over files and over anything else.
-/

namespace SqlScribe

open SqlScribe.Text

namespace CommandLine

/-- What the commands need from the outside. -/
structure Outside (m : Type → Type) where
  fileContent : String → m FileContent
  readInput : m String
  print : String → m Unit
  /-- Where a user keeps settings. -/
  settingsDirectories : List String

/-- A command that runs: it prints, and it may end with a complaint. -/
abbrev Running (m : Type → Type) (α : Type) := ExceptT String m α

variable {m : Type → Type} [Monad m]

/-- A result whose fault is a complaint. -/
def settle {α : Type} (x : Except Fault α) : Running m α := ExceptT.mk (pure (x.mapError Fault.message))

/-- The text of a file, or of the input if no file is named. -/
def readText (o : Outside m) : Option String → Running m String
  | none => ExceptT.mk (.ok <$> o.readInput)
  | some path => ExceptT.mk do
    return (← o.fileContent path).text.mapError fun reason => "reading " ++ path ++ ": " ++ reason

/-- Reads a document; `what` says what it was meant to be. -/
def readDocument {α : Type} (what : String) (reader : Json.Reader α) (s : String) :
    Except String α :=
  (Json.readAs Json.nearest .text reader s).mapError fun fault =>
    "parsing " ++ what ++ ": " ++ fault.message

/-- Puts a member in its place among others in the order of their names; of two members of one name
the later one counts. -/
def insertMember (name : String) (doc : Json) : List (String × Json) → List (String × Json)
  | [] => [(name, doc)]
  | (other, present) :: rest =>
    if name = other then (name, present) :: rest
    else if name < other then (name, doc) :: (other, present) :: rest
    else (other, present) :: insertMember name doc rest

mutual

/-- The document with the members of its objects in order. -/
def ordered : Json → Json
  | .array items => .array (orderedItems items)
  | .object members => .object (orderedMembers members)
  | doc => doc

def orderedItems : List Json → List Json
  | [] => []
  | doc :: rest => ordered doc :: orderedItems rest

def orderedMembers : List (String × Json) → List (String × Json)
  | [] => []
  | (name, doc) :: rest => insertMember name (ordered doc) (orderedMembers rest)

end

/-- A cell that is written as a plain document. -/
def cellOfJson : Json → Except String Value
  | .null => .ok .null
  | .bool b => .ok (.bool b)
  | .integer n =>
    match fitInt64? n with
    | some n => .ok (.int n)
    | none => .ok (.float (.ofInt n))
  | .real x => .ok (.float x)
  | .string s => .ok (.string s)
  | doc => .error ("unsupported cell value " ++ (ordered doc).compact)

/-- Rows that are written as arrays of plain documents. -/
def readRows (s : String) : Except String (List Row) := do
  let rows ← readDocument "rows" (Json.readList (Json.readList Json.readAny)) s
  rows.mapM fun row => row.mapM cellOfJson

/-- A query. -/
def readSelect (o : Outside m) (file : Option String) : Running m Select := do
  let s ← readText o file
  ExceptT.mk (pure (readDocument "select descriptor" Select.ofJson s))

/-- The columns of a table. -/
def readColumns (o : Outside m) (path : String) : Running m (List Column) := do
  let s ← readText o (some path)
  ExceptT.mk (pure (readDocument "column definitions" (Json.readList Column.ofJson) s))

/-- The URL of the database. -/
def databaseUrl (inv : Invocation) (c : Configuration) : Running m String :=
  match inv.databaseUrl.orElse fun _ => c.databaseUrl with
  | some url => pure url
  | none => throw "No database URL. Use --database-url or set POLYSQL_DATABASE_URL"

/-- Prints a text, or a document over several lines. -/
def printResult (o : Outside m) (format : OutputFormat) (text : String) (doc : Json) :
    Running m Unit :=
  match format with
  | .table => ExceptT.lift (o.print text)
  | .json => ExceptT.lift (o.print (doc.pretty ++ "\n"))

/-- The dialect that is named, or the one of the settings. -/
def chooseDialect (c : Configuration) (name : Option String) : Running m Dialect :=
  settle (Registry.builtin.get (name.getD c.dialect.key))

/-- Compiles a query. -/
def compileQuery (o : Outside m) (c : Configuration) (format : OutputFormat)
    (dialect : Option String) (inline : Bool) (file : Option String) : Running m Unit := do
  let d ← chooseDialect c dialect
  let q ← readSelect o file
  let s ← settle (q.compile d (if inline then .inline else d.preferredMode))
  printResult o format (statementText s) s.toJson

/-- Runs a query. -/
def runQuery (o : Outside m) (c : Configuration) (inv : Invocation) (columns file : Option String) :
    Running m Unit := do
  let url ← databaseUrl inv c
  let schema ← match columns with
    | some path => readColumns o path
    | none => pure []
  let q ← readSelect o file
  let db ← settle (Database.connect url)
  let s ← settle (q.compile Database.dialect Database.dialect.preferredMode)
  if inv.verbose then ExceptT.lift (o.print ("SQL: " ++ s.sql ++ "\n"))
  let result ← settle (db.fetch q (q.resultTypes schema) s.maxRows)
  if result.rows.isEmpty then ExceptT.lift (o.print "(no results)\n")
  else printResult o inv.format (resultText result) (resultJson result)

/-- The counters of a session that writes all rows and ends. -/
def writeSession (db : Database) (s : Session) (rows : List Row) : Except Fault Summary :=
  let x := Database.executor s.table
  let work : Writing Database Summary := do
    discard (Session.writeAll x rows)
    Session.finish x
  ((work.run.run s).run db).1.1

/-- Writes rows. -/
def writeRows (o : Outside m) (c : Configuration) (inv : Invocation) (table columns : String)
    (search : List String) (mode : WriteMode) (file : Option String) : Running m Unit := do
  let url ← databaseUrl inv c
  let columns ← readColumns o columns
  let s ← readText o file
  let rows ← ExceptT.mk (pure (readRows s))
  let db ← settle (Database.connect url)
  let session ← settle (Session.start Database.dialect table columns search mode)
  let session := match c.batchSize with
    | some size => session.withBatchSize size
    | none => session
  let summary ← settle (writeSession db session rows)
  printResult o inv.format (summaryText summary) summary.toJson

/-- Does what a user has asked for. -/
def perform (o : Outside m) (inv : Invocation) : Running m Unit := do
  let c ← settle (← ExceptT.lift (Configuration.load o.fileContent o.settingsDirectories inv.settings))
  match inv.command with
  | .compile dialect inline file => compileQuery o c inv.format dialect inline file
  | .dialects =>
    printResult o inv.format (dialectsText Registry.builtin) (dialectsJson Registry.builtin)
  | .defaults dialect => do
    let d ← chooseDialect c dialect
    ExceptT.lift (o.print (defaultsText d))
  | .run columns file => runQuery o c inv columns file
  | .write table columns search mode file => writeRows o c inv table columns search mode file

/-- How a run of the program ends. -/
inductive Ending
  | success
  | failure (complaint : String)
  | usage
deriving DecidableEq

/-- The exit code of the program. -/
def Ending.code : Ending → UInt32
  | success => 0
  | failure _ => 1
  | usage => 2

/-- A short account of the arguments. -/
def usageText : String :=
  "Usage: polysql [OPTIONS] <COMMAND>\n\nCommands: compile, dialects, defaults, run, write\n"

/-- Runs the program on its arguments. -/
def run (o : Outside m) (databaseUrl : Option String) (args : List String) : m Ending := do
  match parse databaseUrl args with
  | .error .usage => return .usage
  | .error .help => do
    o.print usageText
    return .success
  | .error .version => do
    o.print "polysql 0.3.0\n"
    return .success
  | .ok inv =>
    match ← (perform o inv).run with
    | .ok () => return .success
    | .error complaint => return .failure complaint

end CommandLine

end SqlScribe

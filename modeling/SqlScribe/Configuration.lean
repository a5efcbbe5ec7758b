import SqlScribe.Dialect.Builtin
import SqlScribe.Toml.Reader

/-!
# Settings

The settings of the command line, which a file may change. A file may hold nothing else, and what it
leaves out is as usual.
-/

namespace SqlScribe

open SqlScribe.Text

/-- What there is under the name of a file. -/
inductive FileContent
  | missing
  | unreadable (reason : String)
  | readable (s : String)

/-- The text of a file, or why there is none. -/
def FileContent.text : FileContent → Except String String
  | missing => .error "No such file or directory (os error 2)"
  | unreadable reason => .error reason
  | readable s => .ok s

/-- The settings. -/
structure Configuration where
  dialect : Builtin := .default
  databaseUrl : Option String := none
  batchSize : Option Nat := none
  logLevel : String := "info"
deriving DecidableEq

namespace Configuration

/-- The name of the file that is looked for where the command runs. -/
def fileName : String := "polysql.toml"

/-- A dialect by its exact name, which may also stand as the name of an empty table or list. -/
def readDialect : Toml → Option Builtin
  | .string s => Builtin.ofKey? s
  | .table _ [(name, .table _ [])] | .table _ [(name, .array [])] => Builtin.ofKey? name
  | _ => none

def readText : Toml → Option String
  | .string s => some s
  | _ => none

def readCount : Toml → Option Nat
  | .integer n => if 0 ≤ n then some n.toNat else none
  | _ => none

/-- Changes one setting. -/
def change (c : Configuration) (name : String) (value : Toml) : Option Configuration :=
  match name with
  | "dialect" => do return { c with dialect := ← readDialect value }
  | "database_url" => do return { c with databaseUrl := some (← readText value) }
  | "batch_size" => do return { c with batchSize := some (← readCount value) }
  | "log_level" => do return { c with logLevel := ← readText value }
  | _ => none

/-- Changes several settings. -/
def changeAll (c : Configuration) : Toml.Members → Option Configuration
  | [] => some c
  | (name, value) :: rest => do (← c.change name value).changeAll rest

/-- What is said of a text that holds no settings. -/
def unreadable : String := "TOML parse error"

/-- What is wrong with a text that holds no settings, or the settings. -/
def read (s : String) : Except String Configuration :=
  match (Toml.read? s).bind (changeAll {}) with
  | none => .error unreadable
  | some c =>
    if c.batchSize = some 0 then .error "batch_size must be at least 1" else .ok c

/-- Reads settings from a text. -/
def ofText (s : String) : Except Fault Configuration := (read s).mapError .configuration

/-- Reads settings from a file; its name goes in front of what is wrong with it. -/
def ofFile (path : String) (content : FileContent) : Except Fault Configuration := do
  let s ← content.text.mapError .io
  (read s).mapError fun reason => .configuration (path ++ ": " ++ reason)

/-- The settings of the first file that exists. -/
def loadFirst {m : Type → Type} [Monad m] (fileContent : String → m FileContent) :
    List String → m (Except Fault Configuration)
  | [] => return .ok {}
  | path :: rest => do
    match ← fileContent path with
    | .missing => loadFirst fileContent rest
    | content => return ofFile path content

/-- The files that are looked for: one where the command runs, and one in each of some
directories. -/
def searchPaths (directories : List String) : List String :=
  fileName :: directories.map (· ++ "/polysql/config.toml")

/-- Loads the settings: from a given file, or from the first one there is among those that are
looked for. -/
def load {m : Type → Type} [Monad m] (fileContent : String → m FileContent)
    (directories : List String) (given : Option String) : m (Except Fault Configuration) := do
  match given with
  | some path => return ofFile path (← fileContent path)
  | none => loadFirst fileContent (searchPaths directories)

end Configuration

end SqlScribe

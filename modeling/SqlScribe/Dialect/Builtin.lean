import SqlScribe.Dialect.Access
import SqlScribe.Dialect.DataView
import SqlScribe.Dialect.Db2
import SqlScribe.Dialect.Mssql
import SqlScribe.Dialect.Postgres
import SqlScribe.Dialect.Sqlite

/-!
# The built-in dialects
-/

namespace SqlScribe

open SqlScribe.Text

/-- One of the dialects that are always there. -/
inductive Builtin
  | mssql
  | postgres
  | sqlite
  | access
  | db2
  | dataView
deriving DecidableEq

namespace Builtin

def all : List Builtin := [mssql, postgres, sqlite, access, db2, dataView]

/-- The dialect used when none is named. -/
def default : Builtin := postgres

def dialect : Builtin → Dialect
  | mssql => Dialect.Mssql.dialect
  | postgres => Dialect.Postgres.dialect
  | sqlite => Dialect.Sqlite.dialect
  | access => Dialect.Access.dialect
  | db2 => Dialect.Db2.dialect
  | dataView => Dialect.DataView.dialect

/-- The name under which a dialect is registered. -/
def key : Builtin → String
  | mssql => "mssql"
  | postgres => "postgres"
  | sqlite => "sqlite"
  | access => "access"
  | db2 => "db2"
  | dataView => "dataview"

/-- Other names that a dialect goes by. -/
def aliases : Builtin → List String
  | mssql => ["sqlserver"]
  | postgres => ["pg", "postgresql"]
  | sqlite => ["sqlite3"]
  | access => ["jet"]
  | db2 => ["ibm"]
  | dataView => ["memory"]

/-- The dialect registered under exactly this name. -/
def ofKey? (s : String) : Option Builtin := all.find? (·.key == s)

/-- The dialect that a name stands for, blanks around it and the case of letters disregarded. -/
def parse (s : String) : Except Fault Builtin :=
  let wanted := lowerLetters (trim s)
  match all.find? fun b => b.key == wanted || b.aliases.contains wanted with
  | some b => .ok b
  | none => .error (.invalid (.unknownDialect s))

end Builtin

end SqlScribe

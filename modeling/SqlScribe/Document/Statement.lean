import SqlScribe.Document.Value
import SqlScribe.Writer.Session

/-!
# Statements, features and counters as documents

What is shown of a compiled statement, of a dialect and of a finished session.
-/

namespace SqlScribe

open Json

namespace Param

def toJson (p : Param) : Json := .object [("value", p.value.toJson), ("type", p.type.toJson)]

end Param

namespace Statement

/-- The text, the parameters and, if there is one, the cap that is left to the reader. -/
def toJson (s : Statement) : Json :=
  .object ([("sql", .string s.sql), ("params", .array (s.params.map Param.toJson))] ++
    (s.maxRows.map fun n => ("max_rows", .integer n)).toList)

end Statement

namespace Summary

def toJson (s : Summary) : Json :=
  .object [("inserted", .integer s.inserted.toNat), ("updated", .integer s.updated.toNat),
    ("merged", .integer s.merged.toNat), ("unmatched", .integer s.unmatched.toNat),
    ("flushes", .integer s.flushes.toNat)]

end Summary

namespace WriteMode

def ofJson : Reader WriteMode := readName ofName? ["insert", "update", "insert_or_update"]

end WriteMode

namespace Quoting

def name : Quoting → String
  | plain => "none"
  | bracket => "bracket"
  | quote => "quote"

def ofName? (s : String) : Option Quoting := [plain, bracket, quote].find? (·.name == s)

def ofJson : Reader Quoting := readName ofName? ["none", "bracket", "quote"]

end Quoting

namespace RowLimit

def name : RowLimit → String
  | top => "top"
  | limit => "limit"
  | driver => "driver"

def ofName? (s : String) : Option RowLimit := [top, limit, driver].find? (·.name == s)

def ofJson : Reader RowLimit := readName ofName? ["top", "limit", "driver"]

end RowLimit

namespace Features

def toJson (f : Features) : Json :=
  .object [("between", .bool f.between), ("in_subquery", .bool f.inSubquery),
    ("parameters", .bool f.parameters), ("parameterized_text", .bool f.parameterizedText),
    ("table_alias", .bool f.tableAlias), ("aggregates", .bool f.aggregates),
    ("bulk_load", .bool f.bulkLoad), ("multi_row_insert", .bool f.multiRowInsert),
    ("parenthesize_filters", .bool f.parenthesizeFilters),
    ("type_correction", .bool f.typeCorrection), ("max_in_list", .integer f.maxInList),
    ("max_batch_rows", .integer f.maxBatchRows), ("max_parameters", .integer f.maxParameters),
    ("max_statement_len", .integer f.maxStatementLength)]

/-- The names of the features and limits. -/
def names : List String :=
  ["between", "in_subquery", "parameters", "parameterized_text", "table_alias", "aggregates",
    "bulk_load", "multi_row_insert", "parenthesize_filters", "type_correction", "max_in_list",
    "max_batch_rows", "max_parameters", "max_statement_len"]

/-- Reads features; what is left out is as usual. -/
def ofJson : Reader Features := fun doc => do
  let members ← membersOf "struct Features" names doc
  let usual : Features := {}
  (Features.mk <$> orDefault members "between" usual.between readBool
    <*> orDefault members "in_subquery" usual.inSubquery readBool
    <*> orDefault members "parameters" usual.parameters readBool
    <*> orDefault members "parameterized_text" usual.parameterizedText readBool
    <*> orDefault members "table_alias" usual.tableAlias readBool
    <*> orDefault members "aggregates" usual.aggregates readBool
    <*> orDefault members "bulk_load" usual.bulkLoad readBool
    <*> orDefault members "multi_row_insert" usual.multiRowInsert readBool
    <*> orDefault members "parenthesize_filters" usual.parenthesizeFilters readBool
    <*> orDefault members "type_correction" usual.typeCorrection readBool
    <*> orDefault members "max_in_list" usual.maxInList readSize
    <*> orDefault members "max_batch_rows" usual.maxBatchRows readSize
    <*> orDefault members "max_parameters" usual.maxParameters readSize
    <*> orDefault members "max_statement_len" usual.maxStatementLength readSize).within members

end Features

end SqlScribe

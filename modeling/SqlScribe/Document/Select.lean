import SqlScribe.Document.Expr
import SqlScribe.Query.Builder

/-!
# Filters and queries in documents

A query is read by building it step by step, so that it satisfies whatever the steps check.
-/

namespace SqlScribe

open Json

namespace NamedExpr

def toJson (n : NamedExpr) : Json :=
  .object [("expr", n.expr.toJson), ("alias", .string n.label)]

/-- Reads a result column; a plain column needs no alias. -/
def ofJson : Reader NamedExpr := fun doc => do
  let members ← membersOf "struct RawNamedExpr" ["expr", "alias"] doc
  let (expr, label) ← (Prod.mk <$> required members "expr" Expr.ofJson
    <*> orNone members "alias" readString).within members
  inDocument <| match label with
    | some label => named expr label
    | none => ofExpr expr

end NamedExpr

namespace Projection

def toJson (p : Projection) : Json := .array (p.items.map NamedExpr.toJson)

def ofJson : Reader Projection := fun doc => do
  inDocument (empty.pushAll (← readList NamedExpr.ofJson doc))

end Projection

namespace OrderTerm

def toJson (t : OrderTerm) : Json :=
  .object ([("expr", t.expr.toJson), ("order", .string t.direction.name)] ++
    (t.substitute.map fun e => ("null_substitute", e.toJson)).toList)

def ofJson : Reader OrderTerm := fun doc => do
  let members ← membersOf "struct OrderPart" ["expr", "order", "null_substitute"] doc
  (OrderTerm.mk <$> required members "expr" Expr.ofJson
    <*> orDefault members "order" .asc Direction.ofJson
    <*> orNone members "null_substitute" Expr.ofJson).within members

end OrderTerm

namespace Order

def toJson (order : Order) : Json := .array (order.map OrderTerm.toJson)

def ofJson : Reader Order := readList OrderTerm.ofJson

end Order

mutual

/-- The filter under the name of its kind. -/
def Filter.toJson : Filter → Json
  | .compare e op value nullAsDefault =>
    .object [("compare", .object [("expr", e.toJson), ("op", .string op.sql),
      ("value", value.toJson), ("null_as_default", .bool nullAsDefault)])]
  | .compareNull e negated =>
    .object [("compare_null", .object [("expr", e.toJson), ("negated", .bool negated)])]
  | .oneOf e values =>
    .object [("in", .object [("expr", e.toJson), ("values", .array (values.map Constant.toJson))])]
  | .startsWith e start =>
    .object [("starts_with", .object [("expr", e.toJson), ("prefix", .string start)])]
  | .contains e needle =>
    .object [("contains", .object [("expr", e.toJson), ("needle", .string needle)])]
  | .inSubquery e subquery =>
    .object [("in_subquery", .object [("expr", e.toJson), ("subquery", Select.toJson subquery)])]
  | .between e low high =>
    .object [("between", .object [("expr", e.toJson), ("low", low.toJson), ("high", high.toJson)])]
  | .constant b => .object [("constant", .bool b)]
  | .and parts => .object [("and", .array (Filter.listToJson parts))]
  | .or parts => .object [("or", .array (Filter.listToJson parts))]
  | .not part => .object [("not", part.toJson)]

def Filter.listToJson : List Filter → List Json
  | [] => []
  | f :: rest => f.toJson :: Filter.listToJson rest

/-- An optional member that holds a filter. -/
def Filter.memberToJson (name : String) : Option Filter → List (String × Json)
  | none => []
  | some f => [(name, f.toJson)]

/-- The query; what is empty or absent is left out, the result columns, the cap and the flag for
repeated rows are not. -/
def Select.toJson : QueryOf Filter → Json
  | ⟨table, tableAlias, columns, filter, groupBy, having, order, maxRows, distinct⟩ =>
    .object (
      [("table", .string table)] ++ (tableAlias.map fun a => ("alias", .string a)).toList ++
        [("columns", columns.toJson)] ++ Filter.memberToJson "filter" filter ++
        (if groupBy.isEmpty then [] else [("group_by", .array (groupBy.map Expr.toJson))]) ++
        Filter.memberToJson "having" having ++ (order.map fun o => ("order", o.toJson)).toList ++
        [("max_rows", .integer maxRows), ("distinct", .bool distinct)])

end

/-- The members of a query's document. -/
structure QueryParts where
  table : String
  tableAlias : Option String
  columns : List NamedExpr
  filter : Option Filter
  groupBy : List Expr
  inferGroupBy : Bool
  having : Option Filter
  order : Option Order
  maxRows : Int64
  distinct : Bool

namespace QueryParts

/-- Builds the query, one part after the other. -/
def build (p : QueryParts) : Except Fault Select := do
  let d ← Draft.start p.table
  let d ← match p.tableAlias with
    | some name => d.withAlias name
    | none => .ok d
  let d ← p.columns.foldlM Draft.withNamed d
  let d := match p.filter with
    | some f => d.withFilter f
    | none => d
  let d := p.groupBy.foldl Draft.withGroupBy d
  let d ← if p.inferGroupBy then d.inferGroupBy else .ok d
  let d := match p.having with
    | some f => d.withHaving f
    | none => d
  let d := match p.order with
    | some order => d.withOrder order
    | none => d
  let d ← d.withMaxRows p.maxRows
  return (if p.distinct then d.withDistinct else d).query

end QueryParts

namespace Filter

/-- The names of the kinds. -/
def kinds : List String :=
  ["compare", "compare_null", "in", "starts_with", "contains", "in_subquery", "between", "constant",
    "and", "or", "not"]

/-- The names of the kinds that hold several parts. -/
def recordKinds : List String :=
  ["compare", "compare_null", "in", "starts_with", "contains", "in_subquery", "between"]

end Filter

mutual

/-- Reads a filter of at most `fuel` levels. -/
def Filter.readLevels : Nat → Reader Filter
  | 0 => fun _ => .error (.text .tooDeep)
  | fuel + 1 => readTagged Filter.kinds Filter.recordKinds fun kind body =>
    match kind with
    | "compare" => do
      let members ← membersOf "struct variant Filter::Compare"
        ["expr", "op", "value", "null_as_default"] body
      (Filter.compare <$> required members "expr" Expr.ofJson
        <*> required members "op" Comparison.ofJson
        <*> required members "value" Constant.ofJson
        <*> orDefault members "null_as_default" false readBool).within members
    | "compare_null" => do
      let members ← membersOf "struct variant Filter::CompareNull" ["expr", "negated"] body
      (Filter.compareNull <$> required members "expr" Expr.ofJson
        <*> orDefault members "negated" false readBool).within members
    | "in" => do
      let members ← membersOf "struct variant Filter::In" ["expr", "values"] body
      (Filter.oneOf <$> required members "expr" Expr.ofJson
        <*> required members "values" (readList Constant.ofJson)).within members
    | "starts_with" => do
      let members ← membersOf "struct variant Filter::StartsWith" ["expr", "prefix"] body
      (Filter.startsWith <$> required members "expr" Expr.ofJson
        <*> required members "prefix" readString).within members
    | "contains" => do
      let members ← membersOf "struct variant Filter::Contains" ["expr", "needle"] body
      (Filter.contains <$> required members "expr" Expr.ofJson
        <*> required members "needle" readString).within members
    | "in_subquery" => do
      let members ← membersOf "struct variant Filter::InSubquery" ["expr", "subquery"] body
      (Filter.inSubquery <$> required members "expr" Expr.ofJson
        <*> required members "subquery" (Select.readLevels fuel)).within members
    | "between" => do
      let members ← membersOf "struct variant Filter::Between" ["expr", "low", "high"] body
      (Filter.between <$> required members "expr" Expr.ofJson
        <*> required members "low" Constant.ofJson
        <*> required members "high" Constant.ofJson).within members
    | "constant" => return .constant (← readBool body)
    | "and" => return .and (← readList (Filter.readLevels fuel) body)
    | "or" => return .or (← readList (Filter.readLevels fuel) body)
    | "not" => return .not (← Filter.readLevels fuel body)
    | _ => .error (.shape (.unknownVariant kind Filter.kinds))

/-- Reads a query of at most `fuel` levels. -/
def Select.readLevels : Nat → Reader Select
  | 0 => fun _ => .error (.text .tooDeep)
  | fuel + 1 => fun doc => do
    let members ← membersOf "struct RawSelect"
      ["table", "alias", "columns", "filter", "group_by", "infer_group_by", "having", "order",
        "max_rows", "distinct"] doc
    let parts ← (QueryParts.mk <$> required members "table" readString
      <*> orNone members "alias" readString
      <*> orDefault members "columns" [] (readList NamedExpr.ofJson)
      <*> orNone members "filter" (Filter.readLevels fuel)
      <*> orDefault members "group_by" [] (readList Expr.ofJson)
      <*> orDefault members "infer_group_by" false readBool
      <*> orNone members "having" (Filter.readLevels fuel)
      <*> orNone members "order" Order.ofJson
      <*> orDefault members "max_rows" 0 readInt64
      <*> orDefault members "distinct" false readBool).within members
    inDocument parts.build

end

/-- Reads a filter. -/
def Filter.ofJson : Reader Filter := fun doc => Filter.readLevels doc.height doc

/-- Reads a query. -/
def Select.ofJson : Reader Select := fun doc => Select.readLevels doc.height doc

end SqlScribe

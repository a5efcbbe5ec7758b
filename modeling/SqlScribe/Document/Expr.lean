import SqlScribe.Document.Value
import SqlScribe.Query.Expr

/-!
# Expressions in documents

An expression is written under the name of its kind. Reading goes through the checked constructors,
so a document can only give expressions that these give.
-/

namespace SqlScribe

open Json

namespace Constant

def toJson (c : Constant) : Json :=
  .object [("value", c.value.toJson), ("type", c.type.toJson)]

def ofJson : Reader Constant := fun doc => do
  let members ← membersOf "struct RawConstant" ["value", "type"] doc
  let (value, type) ← (Prod.mk <$> required members "value" Value.ofJson
    <*> orDefault members "type" .unknown ColumnType.ofJson).within members
  inDocument (typed value type)

end Constant

namespace ColumnPath

def toJson (c : ColumnPath) : Json := .string c.fullName

def ofJson : Reader ColumnPath := fun doc => do inDocument (parse (← readString doc))

end ColumnPath

namespace Func

def ofJson : Reader Func := readName ofName? (all.map name)

end Func

namespace Aggregate

def ofJson : Reader Aggregate := readName ofName? (all.map name)

end Aggregate

namespace Comparison

def ofJson : Reader Comparison := readName ofSql? (all.map sql)

end Comparison

namespace Direction

def ofJson : Reader Direction := readName ofName? ["asc", "desc"]

end Direction

namespace Expr

mutual

/-- The expression under the name of its kind. -/
def toJson : Expr → Json
  | constant c => .object [("constant", c.toJson)]
  | column path => .object [("column", path.toJson)]
  | function f args =>
    .object [("function", .object [("func", .string f.name), ("args", .array (listToJson args))])]
  | aggregate f none =>
    .object [("aggregate", .object [("func", .string f.name), ("arg", .null)])]
  | aggregate f (some e) =>
    .object [("aggregate", .object [("func", .string f.name), ("arg", e.toJson)])]

def listToJson : List Expr → List Json
  | [] => []
  | e :: rest => e.toJson :: listToJson rest

end

/-- The names of the kinds. -/
def kinds : List String := ["constant", "column", "function", "aggregate"]

/-- The names of the kinds that hold several parts. -/
def recordKinds : List String := ["function", "aggregate"]

/-- Reads an expression of at most `fuel` levels. -/
def readLevels : Nat → Reader Expr
  | 0 => fun _ => .error (.text .tooDeep)
  | fuel + 1 => readTagged kinds recordKinds fun kind body =>
    match kind with
    | "constant" => return constant (← Constant.ofJson body)
    | "column" => return column (← ColumnPath.ofJson body)
    | "function" => do
      let members ← membersOf "struct variant Expr::Function" ["func", "args"] body
      (function <$> required members "func" Func.ofJson
        <*> required members "args" (readList (readLevels fuel))).within members
    | "aggregate" => do
      let members ← membersOf "struct variant Expr::Aggregate" ["func", "arg"] body
      (aggregate <$> required members "func" Aggregate.ofJson
        <*> orAbsent members "arg" (readLevels fuel)).within members
    | _ => .error (.shape (.unknownVariant kind kinds))

/-- Reads an expression. -/
def ofJson : Reader Expr := fun doc => readLevels doc.height doc

end Expr

end SqlScribe

/-!
# Operators

The comparisons, functions, aggregates and sort directions of a query.
-/

namespace SqlScribe

/-- A comparison of two values. -/
inductive Comparison
  | eq
  | ne
  | lt
  | le
  | gt
  | ge
deriving DecidableEq

namespace Comparison

def sql : Comparison → String
  | eq => "="
  | ne => "<>"
  | lt => "<"
  | le => "<="
  | gt => ">"
  | ge => ">="

def all : List Comparison := [eq, ne, lt, le, gt, ge]

/-- The comparison written this way. -/
def ofSql? (s : String) : Option Comparison := all.find? (·.sql == s)

/-- The comparison holds between values that stand in this order. -/
def holds (op : Comparison) (order : Ordering) : Bool :=
  match op with
  | eq => order == .eq
  | ne => order != .eq
  | lt => order == .lt
  | le => order != .gt
  | gt => order == .gt
  | ge => order != .lt

end Comparison

/-- A function of one row. -/
inductive Func
  | coalesce
  | substring
  | concat
  | upper
  | lower
  | length
  | trim
  | abs
deriving DecidableEq

namespace Func

/-- The name that most databases use. -/
def sql : Func → String
  | coalesce => "COALESCE"
  | substring => "SUBSTRING"
  | concat => "CONCAT"
  | upper => "UPPER"
  | lower => "LOWER"
  | length => "LENGTH"
  | trim => "TRIM"
  | abs => "ABS"

/-- The name in a descriptor. -/
def name : Func → String
  | coalesce => "coalesce"
  | substring => "substring"
  | concat => "concat"
  | upper => "upper"
  | lower => "lower"
  | length => "length"
  | trim => "trim"
  | abs => "abs"

def all : List Func := [coalesce, substring, concat, upper, lower, length, trim, abs]

def ofName? (s : String) : Option Func := all.find? (·.name == s)

/-- The least number of arguments. -/
def least : Func → Nat
  | coalesce | concat | substring => 2
  | _ => 1

/-- The greatest number of arguments, if there is one. -/
def most : Func → Option Nat
  | coalesce | concat => none
  | substring => some 3
  | _ => some 1

/-- The function takes this number of arguments. -/
def takes (f : Func) (count : Nat) : Bool := f.least ≤ count && f.most.all (count ≤ ·)

end Func

/-- A function of many rows. -/
inductive Aggregate
  | count
  | sum
  | min
  | max
  | avg
deriving DecidableEq

namespace Aggregate

def sql : Aggregate → String
  | count => "COUNT"
  | sum => "SUM"
  | min => "MIN"
  | max => "MAX"
  | avg => "AVG"

/-- The name in a descriptor. -/
def name : Aggregate → String
  | count => "count"
  | sum => "sum"
  | min => "min"
  | max => "max"
  | avg => "avg"

def all : List Aggregate := [count, sum, min, max, avg]

def ofName? (s : String) : Option Aggregate := all.find? (·.name == s)

end Aggregate

/-- The direction of a sort. -/
inductive Direction
  | asc
  | desc
deriving DecidableEq

namespace Direction

def sql : Direction → String
  | asc => "ASC"
  | desc => "DESC"

/-- The name in a descriptor. -/
def name : Direction → String
  | asc => "asc"
  | desc => "desc"

def ofName? (s : String) : Option Direction := [asc, desc].find? (·.name == s)

end Direction

end SqlScribe

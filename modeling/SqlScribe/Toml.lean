/-!
# TOML documents

The tree of a TOML document, and how a document grows line by line. A table that was written as a
value is closed, and a name is given only once.
-/

namespace SqlScribe

/-- How a table came to be, which decides what may still be added to it. -/
inductive TableOrigin
  /-- It stands above a header or was opened for one. -/
  | opened
  /-- It has a header of its own. -/
  | headed
  /-- It was made by a name with points in it. -/
  | dotted
  /-- It is a value between braces. -/
  | closed
deriving DecidableEq

/-- A TOML value; of dates and numbers with a point only the kind is kept. -/
inductive Toml
  | string (s : String)
  | integer (n : Int)
  | float
  | bool (b : Bool)
  | dateTime
  | array (items : List Toml)
  | table (origin : TableOrigin) (members : List (String × Toml))
  | tables (items : List Toml)

namespace Toml

/-- The members of a table. -/
abbrev Members := List (String × Toml)

/-- Puts a value in place of the one of a name, or at the end. -/
def put (name : String) (value : Toml) : Members → Members
  | [] => [(name, value)]
  | (other, present) :: rest =>
    if other = name then (name, value) :: rest else (other, present) :: put name value rest

/-- Adds a value under a path of names. -/
def assign (members : Members) : List String → Toml → Option Members
  | [], _ => none
  | [name], value =>
    match members.lookup name with
    | some _ => none
    | none => some (members ++ [(name, value)])
  | name :: path, value =>
    match members.lookup name with
    | none => do return members ++ [(name, table .dotted (← assign [] path value))]
    | some (table .dotted inner) => do return put name (table .dotted (← assign inner path value)) members
    | some (table .opened inner) => do return put name (table .opened (← assign inner path value)) members
    | some _ => none

/-- Goes down a path of names, opening tables on the way, and changes the members at its end. -/
def within (change : Members → Option Members) (members : Members) : List String → Option Members
  | [] => change members
  | name :: path =>
    match members.lookup name with
    | none => do return members ++ [(name, table .opened (← within change [] path))]
    | some (table origin inner) => do
      if origin = .closed then none
      else return put name (table origin (← within change inner path)) members
    | some (tables items) =>
      match items.reverse with
      | table origin inner :: before => do
        return put name (tables ((table origin (← within change inner path)) :: before).reverse)
          members
      | _ => none
    | some _ => none

/-- Opens the table of a header. -/
def openTable (name : String) (members : Members) : Option Members :=
  match members.lookup name with
  | none => some (members ++ [(name, table .headed [])])
  | some (table .opened inner) => some (put name (table .headed inner) members)
  | some _ => none

/-- Adds a table to a list of tables. -/
def addTable (name : String) (members : Members) : Option Members :=
  match members.lookup name with
  | none => some (members ++ [(name, tables [table .headed []])])
  | some (tables items) => some (put name (tables (items ++ [table .headed []])) members)
  | some _ => none

end Toml

end SqlScribe

import SqlScribe.Dialect.Builtin

/-!
# Registries of dialects

Dialects under names, and other names for those. Names are kept in order; blanks around a name and
the case of letters do not count.
-/

namespace SqlScribe

open SqlScribe.Text

/-- A list of named things in the order of their names, each name once. -/
abbrev Named (α : Type) := List (String × α)

namespace Named

variable {α : Type}

/-- The thing of a name. -/
def get? (entries : Named α) (name : String) : Option α := entries.lookup name

/-- Puts a thing under a name, in place of the one that has it. -/
def insert (name : String) (value : α) : Named α → Named α
  | [] => [(name, value)]
  | (other, present) :: rest =>
    if name = other then (name, value) :: rest
    else if name < other then (name, value) :: (other, present) :: rest
    else (other, present) :: insert name value rest

/-- Takes a name away. -/
def erase (name : String) (entries : Named α) : Named α := entries.filter (·.1 != name)

end Named

/-- Dialects under their names, and the names that stand for other names. -/
structure Registry where
  dialects : Named Dialect
  aliases : Named String

namespace Registry

/-- A name as it is registered. -/
def keyOf (name : String) : String := lowerLetters (trim name)

def empty : Registry := ⟨[], []⟩

/-- Registers a dialect; a name that stood for another one now stands for itself. -/
def register (r : Registry) (name : String) (d : Dialect) : Registry :=
  ⟨Named.insert (keyOf name) d r.dialects, Named.erase (keyOf name) r.aliases⟩

/-- Lets a name stand for a registered one. -/
def addAlias (r : Registry) (byname target : String) : Except Fault Registry :=
  match Named.get? r.dialects (keyOf target) with
  | none => .error (.invalid (.unregisteredTarget (keyOf target)))
  | some _ => .ok { r with aliases := Named.insert (keyOf byname) (keyOf target) r.aliases }

/-- The dialect that a name stands for. -/
def get (r : Registry) (name : String) : Except Fault Dialect :=
  let key := (Named.get? r.aliases (keyOf name)).getD (keyOf name)
  match Named.get? r.dialects key with
  | some d => .ok d
  | none => .error (.invalid (.unknownDialect name))

/-- The registered names, in order. -/
def names (r : Registry) : List String := r.dialects.map (·.1)

/-- Registers one built-in dialect under all its names. -/
def addBuiltin (r : Registry) (b : Builtin) : Registry :=
  let r := r.register b.key b.dialect
  { r with aliases := b.aliases.foldl (fun aliases a => Named.insert a b.key aliases) r.aliases }

/-- The registry of all built-in dialects. -/
def builtin : Registry := Builtin.all.foldl addBuiltin empty

/-- The names and aliases as a diagnostic shows them. -/
def describe (r : Registry) : String :=
  "DialectRegistry \x7b dialects: [" ++ join ", " (r.names.map quoted) ++ "], aliases: \x7b" ++
    join ", " (r.aliases.map fun (byname, target) => quoted byname ++ ": " ++ quoted target) ++
    "\x7d \x7d"

end Registry

end SqlScribe

import SqlScribe.Text.Pieces
import SqlScribe.Writer.Mode

/-!
# Arguments of the command line

Options stand before or after the command, words belong to the command. An option is written
`--name value`, `--name=value`, `-n value`, `-nvalue` or `-n=value`, and short options may be run
together.
-/

namespace SqlScribe

open SqlScribe.Text

namespace CommandLine

/-- How a result is written. -/
inductive OutputFormat
  | table
  | json
deriving DecidableEq

/-- The commands. -/
inductive Command
  | compile (dialect : Option String) (inline : Bool) (file : Option String)
  | dialects
  | defaults (dialect : Option String)
  | run (columns file : Option String)
  | write (table columns : String) (search : List String) (mode : WriteMode) (file : Option String)

/-- What a user has asked for. -/
structure Invocation where
  settings : Option String
  databaseUrl : Option String
  format : OutputFormat
  verbose : Bool
  command : Command

/-- Why there is nothing to run. -/
inductive Halt
  | usage
  | help
  | version
deriving DecidableEq

/-- An option. -/
structure Switch where
  name : String
  letter : Option Char
  takesValue : Bool
  mayRepeat : Bool
  accepts : String → Bool

/-- An option without a value. -/
def flag (name : String) (letter : Option Char) : Switch := ⟨name, letter, false, false, fun _ => true⟩

/-- An option whose value is any text. -/
def textSwitch (name : String) (letter : Option Char) : Switch :=
  ⟨name, letter, true, false, fun _ => true⟩

/-- An option whose value names a file. -/
def fileSwitch (name : String) (letter : Option Char) : Switch :=
  ⟨name, letter, true, false, fun s => !s.isEmpty⟩

/-- An option whose value is one of several words. -/
def choice (name : String) (letter : Option Char) (words : List String) : Switch :=
  ⟨name, letter, true, false, words.contains⟩

/-- The options of every command. -/
def commonSwitches : List Switch :=
  [fileSwitch "config" (some 'c'), textSwitch "database-url" none,
    choice "format" (some 'f') ["table", "json"], flag "verbose" (some 'v'),
    flag "help" (some 'h')]

/-- What was given: options with their values, and words. -/
structure Given where
  options : List (String × String)
  words : List String

namespace Given

/-- The last value of an option. -/
def value? (g : Given) (name : String) : Option String := g.options.reverse.lookup name

/-- All values of an option. -/
def values (g : Given) (name : String) : List String :=
  (g.options.filter (·.1 == name)).map (·.2)

def has (g : Given) (name : String) : Bool := (g.value? name).isSome

/-- Adds an option. -/
def add (g : Given) (s : Switch) (value : String) : Except Halt Given :=
  if s.name = "help" then .error .help
  else if s.name = "version" then .error .version
  else if !s.accepts value || (g.has s.name && !s.mayRepeat) then .error .usage
  else .ok { g with options := g.options ++ [(s.name, value)] }

end Given

/-- A text that looks like an option. -/
def looksLikeOption (s : String) : Bool := s.startsWith "-" && 1 < s.length

/-- Splits `name=value`. -/
def splitValue (s : List Char) : List Char × Option (List Char) :=
  match s.dropWhile (· ≠ '=') with
  | [] => (s, none)
  | _ :: value => (s.takeWhile (· ≠ '='), some value)

/-- Takes the value of an option off the arguments. -/
def takeValue : List String → Except Halt (String × List String)
  | value :: rest => if looksLikeOption value then .error .usage else .ok (value, rest)
  | [] => .error .usage

/-- Reads an option by its name, after the two hyphens. -/
def readLong (switches : List Switch) (g : Given) (body : List Char) (rest : List String) :
    Except Halt (Given × List String) :=
  let (name, value) := splitValue body
  match switches.find? fun s => s.name.toList == name, value with
  | none, _ => .error .usage
  | some s, some value =>
    if s.takesValue then do return (← g.add s (.ofList value), rest) else .error .usage
  | some s, none =>
    if s.takesValue then do
      let (value, rest) ← takeValue rest
      return (← g.add s value, rest)
    else do return (← g.add s "", rest)

/-- Reads options by their letters, after the hyphen. -/
def readLetters (switches : List Switch) (g : Given) (rest : List String) :
    List Char → Except Halt (Given × List String)
  | [] => .ok (g, rest)
  | c :: more =>
    match switches.find? fun s => s.letter == some c with
    | none => .error .usage
    | some s =>
      if !s.takesValue then do readLetters switches (← g.add s "") rest more
      else
        match more with
        | [] => do
          let (value, rest) ← takeValue rest
          return (← g.add s value, rest)
        | '=' :: value => do return (← g.add s (.ofList value), rest)
        | value => do return (← g.add s (.ofList value), rest)

/-- Reads arguments. If `stops` is set, the first word ends the reading; it and what follows it come
back. -/
def readArguments (switches : List Switch) (stops : Bool) (g : Given) :
    Nat → List String → Except Halt (Given × List String)
  | 0, _ => .error .usage
  | _ + 1, [] => .ok (g, [])
  | fuel + 1, arg :: rest =>
    if arg = "--" then
      if stops then .error .usage else .ok ({ g with words := g.words ++ rest }, [])
    else if looksLikeOption arg then do
      let (g, rest) ← match arg.toList with
        | '-' :: '-' :: body => readLong switches g body rest
        | body => readLetters switches g rest body.tail
      readArguments switches stops g fuel rest
    else if stops then .ok (g, arg :: rest)
    else readArguments switches stops { g with words := g.words ++ [arg] } fuel rest

/-- The options of one command. -/
def switchesOf (command : String) : Option (List Switch) :=
  match command with
  | "compile" => some [textSwitch "dialect" (some 'd'), flag "inline" none]
  | "dialects" => some []
  | "defaults" => some [textSwitch "dialect" (some 'd')]
  | "run" => some [fileSwitch "columns" none]
  | "write" =>
    some [textSwitch "table" (some 't'), fileSwitch "columns" none,
      { textSwitch "search" (some 's') with mayRepeat := true },
      choice "mode" (some 'm') ["insert", "update", "upsert"]]
  | _ => none

/-- The file that a command reads, if one is named. -/
def fileOf (words : List String) : Except Halt (Option String) :=
  match words with
  | [] => .ok none
  | [file] => if file.isEmpty then .error .usage else .ok (some file)
  | _ => .error .usage

/-- The command of a name with its options. -/
def commandOf (name : String) (g : Given) : Except Halt Command :=
  match name with
  | "compile" => do return .compile (g.value? "dialect") (g.has "inline") (← fileOf g.words)
  | "dialects" => if g.words.isEmpty then .ok .dialects else .error .usage
  | "defaults" => if g.words.isEmpty then .ok (.defaults (g.value? "dialect")) else .error .usage
  | "run" => do return .run (g.value? "columns") (← fileOf g.words)
  | "write" => do
    let file ← fileOf g.words
    let mode := match g.value? "mode" with
      | some "insert" => WriteMode.insert
      | some "update" => .update
      | _ => .insertOrUpdate
    match g.value? "table", g.value? "columns" with
    | some table, some columns => return .write table columns (g.values "search") mode file
    | _, _ => .error .usage
  | _ => .error .usage

/-- Reads the arguments of the program. `databaseUrl` is what the environment says of the database.
An option after the command counts more than one before it. -/
def parse (databaseUrl : Option String) (args : List String) : Except Halt Invocation := do
  let (outer, rest) ← readArguments (commonSwitches ++ [flag "version" (some 'V')]) true ⟨[], []⟩
    (args.length + 1) args
  match rest with
  | [] => .error .usage
  | name :: rest =>
    if name = "help" then .error .help
    match switchesOf name with
    | none => .error .usage
    | some own =>
      let (inner, _) ← readArguments (commonSwitches ++ own) false ⟨[], []⟩ (rest.length + 1) rest
      let command ← commandOf name inner
      let common (option : String) : Option String :=
        (inner.value? option).orElse fun _ => outer.value? option
      return {
        settings := common "config"
        databaseUrl := (common "database-url").orElse fun _ => databaseUrl
        format := if common "format" = some "json" then .json else .table
        verbose := (common "verbose").isSome
        command }

end CommandLine

end SqlScribe

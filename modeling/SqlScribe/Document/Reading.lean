import SqlScribe.Fault
import SqlScribe.Json.Reader
import SqlScribe.Number.Integer

/-!
# Reading documents

A text can break off, a document can have the wrong shape, or the right shape and a content that
makes no sense. Of several faults the one that stands first in the text is reported; a missing
member is noticed where its object ends.
-/

namespace SqlScribe

open SqlScribe.Text

/-- A document of the wrong shape. -/
inductive ShapeFault
  | missing (member : String)
  | duplicate (member : String)
  | unknownVariant (name : String) (known : List String)
  | wrongType (found expected : String)
  | wrongValue (found expected : String)
  | wrongLength (found : Nat) (expected : String)
  | unreadable (reason : String)
deriving DecidableEq

/-- A document that cannot be used. -/
inductive DocumentFault
  | text (cause : JsonFault)
  | shape (cause : ShapeFault)
  | content (cause : Fault)
deriving DecidableEq

private def inBackticks (s : String) : String := "`" ++ s ++ "`"

namespace ShapeFault

def message : ShapeFault → String
  | missing member => "missing field " ++ inBackticks member
  | duplicate member => "duplicate field " ++ inBackticks member
  | unknownVariant name known =>
    "unknown variant " ++ inBackticks name ++ ", expected " ++
      match known with
      | [] => "nothing"
      | [a] => inBackticks a
      | [a, b] => inBackticks a ++ " or " ++ inBackticks b
      | more => "one of " ++ join ", " (more.map inBackticks)
  | wrongType found expected => "invalid type: " ++ found ++ ", expected " ++ expected
  | wrongValue found expected => "invalid value: " ++ found ++ ", expected " ++ expected
  | wrongLength found expected => "invalid length " ++ numeral found ++ ", expected " ++ expected
  | unreadable reason => reason

end ShapeFault

namespace DocumentFault

def message : DocumentFault → String
  | text cause => cause.message
  | shape cause => cause.message
  | content cause => cause.message

end DocumentFault

namespace Json

namespace Source

/-- What kind of document this is, as a message names it. -/
def kind : Source → Except JsonFault String
  | null => .ok "null"
  | bool b => .ok ("boolean " ++ inBackticks (if b then "true" else "false"))
  | integer n => .ok ("integer " ++ inBackticks (numeral n))
  | real x => .ok ("floating point " ++ inBackticks x.toDocumentText)
  | string s => .ok ("string " ++ quoted s)
  | array _ _ | deep true => .ok "sequence"
  | object _ _ | nameless _ _ | deep false => .ok "map"
  | cutNull fault | broken fault _ => .error fault

/-- The fault when something else is expected. What a list or an object holds does not matter then. -/
def mismatch (doc : Source) (expected : String) : DocumentFault :=
  match doc.kind with
  | .ok found => .shape (.wrongType found expected)
  | .error fault => .text fault

/-- The fault when a document is of the right type and has a value that does not do. -/
def misfit (doc : Source) (expected : String) : DocumentFault :=
  match doc.kind with
  | .ok found => .shape (.wrongValue found expected)
  | .error fault => .text fault

end Source

/-- A way to read a document. -/
abbrev Reader (α : Type) := Source → Except DocumentFault α

/-- A result of reading, with the place of the fault. -/
structure Placed (α : Type) where
  outcome : Except (Nat × DocumentFault) α

/-- One of the members that are asked for, with its place among all. -/
structure Member where
  place : Nat
  name : String
  content : Source

/-- The members of an object, which may be given as a list of their contents. -/
structure Members where
  known : List Member
  /-- What is wrong outside of the known members, and where. -/
  outside : Option (Nat × JsonFault)
  /-- The names in the order of a list, and what is expected where a list is too short. -/
  listed : Option (List String × String)

namespace Placed

/-- The place after all members. -/
def afterAll : Nat := 1000000000

/-- Puts two readings together; of two faults the first in the document counts. -/
def and {α β : Type} (f : Placed (α → β)) (x : Placed α) : Placed β :=
  ⟨match f.outcome, x.outcome with
    | .ok f, .ok x => .ok (f x)
    | .error fault, .ok _ => .error fault
    | .ok _, .error fault => .error fault
    | .error fault, .error other => .error (if other.1 < fault.1 then other else fault)⟩

instance : Applicative Placed where
  pure x := ⟨.ok x⟩
  seq f x := f.and (x ())

/-- A reading that fails at a place. -/
def fail {α : Type} (place : Nat) (fault : DocumentFault) : Placed α := ⟨.error (place, fault)⟩

/-- The reading of the members' contents, given what is wrong outside of them. -/
def within {α : Type} (members : Members) (x : Placed α) : Except DocumentFault α :=
  match x.outcome, members.outside with
  | .ok value, none => .ok value
  | .ok _, some (_, fault) => .error (.text fault)
  | .error (_, fault), none => .error fault
  | .error (place, fault), some (other, outside) =>
    .error (if other < place then .text outside else fault)

end Placed

namespace Members

/-- The members that are asked for, in the order of the document. -/
def knownOf (names : List String) (otherNames : List (String × String)) (place : Nat) :
    List (String × Source × Option JsonFault) → List Member
  | [] => []
  | (name, content, _) :: rest =>
    let name := (otherNames.lookup name).getD name
    let more := knownOf names otherNames (place + 1) rest
    if names.contains name then ⟨place, name, content⟩ :: more else more

/-- The first fault among the members that are passed over, or at their end. -/
def outsideOf (names : List String) (otherNames : List (String × String)) (stop : Option JsonFault)
    (place : Nat) : List (String × Source × Option JsonFault) → Option (Nat × JsonFault)
  | [] => stop.map (place, ·)
  | (name, _, passing) :: rest =>
    let name := (otherNames.lookup name).getD name
    let more := outsideOf names otherNames stop (place + 1) rest
    if names.contains name then more else (passing.map (place, ·)).or more

/-- What is wrong after the last item of a list that stands for `expected` members. Where nothing may
follow, anything but the end is one item too many. -/
def listStop (expected items : Nat) (stop : Option JsonFault) : Option JsonFault :=
  if items < expected then stop
  else if expected < items then some .trailingCharacters
  else
    stop.map fun fault =>
      match fault with
      | .endInList | .trailingComma => fault
      | _ => .trailingCharacters

/-- The members of an object that have these names. A list stands for an object whose members have
the names in this order; `short` is what is expected where it is too short. -/
def ofSource (what short : String) (names : List String) (otherNames : List (String × String)) :
    Reader Members
  | .object members stop =>
    .ok ⟨knownOf names otherNames 0 members, outsideOf names otherNames stop 0 members, none⟩
  | .nameless _ fault => .ok ⟨[], some (0, fault), none⟩
  | .array items stop =>
    .ok ⟨(names.zip items).zipIdx.map fun m => ⟨m.2, m.1.1, m.1.2⟩,
      (listStop names.length items.length stop).map (min names.length items.length, ·),
      some (names, short)⟩
  | .deep _ => .error (.text .tooDeep)
  | doc => .error (doc.mismatch what)

/-- The fault when there is no member of a name. -/
def absence (members : Members) (name : String) : DocumentFault :=
  match members.listed with
  | none => .shape (.missing name)
  | some (names, short) => .shape (.wrongLength (names.idxOf name) short)

end Members

/-- The members of a record; some may go by other names as well. -/
def recordOf (what : String) (names : List String) (otherNames : List (String × String)) :
    Reader Members :=
  Members.ofSource what (what ++ " with " ++ numeral names.length ++ " elements") names otherNames

/-- The members of a record. -/
def membersOf (what : String) (names : List String) : Reader Members := recordOf what names []

/-- The member of a name, if there is one; a second one is a fault. -/
def optional {α : Type} (members : Members) (name : String) (reader : Reader α) :
    Placed (Option α) :=
  match members.known.filter (·.name == name) with
  | [] => pure none
  | member :: rest =>
    match reader member.content, rest with
    | .error fault, _ => .fail member.place fault
    | .ok value, [] => pure (some value)
    | .ok _, second :: _ => .fail second.place (.shape (.duplicate name))

/-- The member of a name; it may not be missing. -/
def required {α : Type} (members : Members) (name : String) (reader : Reader α) : Placed α :=
  match (optional members name reader).outcome with
  | .error (place, fault) => .fail place fault
  | .ok (some value) => pure value
  | .ok none => .fail Placed.afterAll (members.absence name)

/-- The member of a name, or what stands for a missing one. -/
def orDefault {α : Type} (members : Members) (name : String) (default : α) (reader : Reader α) :
    Placed α :=
  (·.getD default) <$> optional members name reader

/-- Reads a document where `null` stands for nothing; what begins like `null` has to be it. -/
def orNull {α : Type} (reader : Reader α) : Reader (Option α)
  | .null => .ok none
  | .cutNull fault => .error (.text fault)
  | doc => (reader doc).map some

/-- The member of a name, where a missing one and `null` both stand for nothing. -/
def orNone {α : Type} (members : Members) (name : String) (reader : Reader α) :
    Placed (Option α) :=
  orDefault members name none (orNull reader)

/-- The member of a name, where `null` stands for nothing, and so does a missing one unless the
members come as a list. -/
def orAbsent {α : Type} (members : Members) (name : String) (reader : Reader α) :
    Placed (Option α) :=
  if members.listed.isSome then required members name (orNull reader)
  else orNone members name reader

/-- Every item of a list. -/
def readList {α : Type} (reader : Reader α) : Reader (List α)
  | .array items stop => do
    let values ← items.mapM reader
    match stop with
    | none => return values
    | some fault => throw (.text fault)
  | .deep true => .error (.text .tooDeep)
  | doc => .error (doc.mismatch "a sequence")

/-- Any document, as it is. -/
def readAny : Reader Json := fun doc => doc.document.mapError .text

def readString : Reader String
  | .string s => .ok s
  | doc => .error (doc.mismatch "a string")

def readBool : Reader Bool
  | .bool b => .ok b
  | doc => .error (doc.mismatch "a boolean")

def readInt64 : Reader Int64
  | .integer n =>
    match fitInt64? n with
    | some m => .ok m
    | none => .error ((Source.integer n).misfit "i64")
  | doc => .error (doc.mismatch "i64")

/-- A whole number from zero up to below a bound. -/
def readNat (bound : Nat) (what : String) : Reader Nat
  | .integer n =>
    if 0 ≤ n && n < bound then .ok n.toNat else .error ((Source.integer n).misfit what)
  | doc => .error (doc.mismatch what)

def readSize : Reader Nat := readNat 18446744073709551616 "usize"

def readByte : Reader UInt8 := fun doc => (readNat 256 "u8" doc).map .ofNat

/-- What is wrong behind the one member of an object that names one of several things. -/
def afterOnly (more : Bool) (stop : Option JsonFault) : Option JsonFault :=
  if more then some .expectedValue
  else
    stop.map fun fault =>
      match fault with
      | .endInObject => fault
      | _ => .expectedValue

/-- Reads the name of one of several things: a text for a bare name, an object with one member for a
name with a content. -/
def readVariant {α : Type} (known : List String) (bare : String → Except DocumentFault α)
    (inside : String → Reader α) : Reader α
  | .string s =>
    if known.contains s then bare s else .error (.shape (.unknownVariant s known))
  | .object ((name, content, _) :: rest) stop =>
    if known.contains name then do
      let value ← inside name content
      match afterOnly (!rest.isEmpty) stop with
      | none => return value
      | some fault => throw (.text fault)
    else .error (.shape (.unknownVariant name known))
  | .object [] stop => .error (.text (stop.getD .expectedValue))
  | .nameless found _ => .error (found.mismatch "variant identifier")
  | .deep false => .error (.text .tooDeep)
  | .broken _ nameFault => .error (.text nameFault)
  | _ => .error (.text .expectedValue)

/-- Reads nothing. -/
def readNothing : Reader Unit
  | .null => .ok ()
  | doc => .error (doc.mismatch "unit")

/-- A text that names one of several things, which may also be given as the name of an empty
member. -/
def readName {α : Type} (ofName? : String → Option α) (known : List String) : Reader α :=
  let bare (s : String) : Except DocumentFault α :=
    match ofName? s with
    | some value => .ok value
    | none => .error (.shape (.unknownVariant s known))
  readVariant known bare fun s content => do
    readNothing content
    bare s

/-- Reads one of several things that have contents; those that are records are also known apart,
since a message tells them apart. -/
def readTagged {α : Type} (known records : List String) (inside : String → Reader α) : Reader α :=
  readVariant known
    (fun s =>
      .error (.shape (.wrongType "unit variant"
        (if records.contains s then "struct variant" else "newtype variant"))))
    inside

/-- A text in a format that a reader knows. -/
def readText {α : Type} (ofText : String → Except String α) (expected : String) : Reader α
  | .string s => (ofText s).mapError fun reason => .shape (.unreadable reason)
  | doc => .error (doc.mismatch expected)

end Json

/-- Turns a fault of the content into one of the document. -/
def inDocument {α : Type} (x : Except Fault α) : Except DocumentFault α := x.mapError .content

end SqlScribe

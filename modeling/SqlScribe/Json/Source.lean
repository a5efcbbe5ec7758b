import SqlScribe.Json.Passing

/-!
# Documents as they stand in a text

A text is taken apart as far as it goes, and what is wrong with it is kept where it was found. So
whoever reads a document complains about the first thing that stands in the way, be it the text or
what it says; what is passed over is checked for its text only.
-/

namespace SqlScribe.Json

open SqlScribe.Text

/-- A document as it stands in a text. -/
inductive Source
  | null
  | bool (b : Bool)
  | integer (n : Int)
  | real (x : Binary64)
  | string (s : String)
  /-- A list, and what is wrong after its last item. -/
  | array (items : List Source) (stop : Option JsonFault)
  /-- An object, and what is wrong after its last member. With each member comes what is wrong for
  those who pass over it. -/
  | object (members : List (String × Source × Option JsonFault)) (stop : Option JsonFault)
  /-- An object that begins with something other than a name. -/
  | nameless (found : Source) (fault : JsonFault)
  /-- A list or an object that is nested too deep. -/
  | deep (isList : Bool)
  /-- The word `null`, begun and not brought to its end. -/
  | cutNull (fault : JsonFault)
  /-- No document, and what is wrong for those who expect a name instead of one. -/
  | broken (fault nameFault : JsonFault)

namespace Source

mutual

/-- A document in whose text nothing is wrong. -/
def ofJson : Json → Source
  | .null => null
  | .bool b => bool b
  | .integer n => integer n
  | .real x => real x
  | .string s => string s
  | .array items => array (ofItems items) none
  | .object members => object (ofMembers members) none

def ofItems : List Json → List Source
  | [] => []
  | doc :: rest => ofJson doc :: ofItems rest

def ofMembers : List (String × Json) → List (String × Source × Option JsonFault)
  | [] => []
  | (name, doc) :: rest => (name, ofJson doc, none) :: ofMembers rest

end

mutual

/-- The whole document, or the first thing that is wrong with its text. -/
def document : Source → Except JsonFault Json
  | null => .ok .null
  | bool b => .ok (.bool b)
  | integer n => .ok (.integer n)
  | real x => .ok (.real x)
  | string s => .ok (.string s)
  | array items stop => do
    let docs ← documents items
    match stop with
    | none => return .array docs
    | some fault => throw fault
  | object members stop => do
    let docs ← documentsOfMembers members
    match stop with
    | none => return .object docs
    | some fault => throw fault
  | nameless _ fault => .error fault
  | deep _ => .error .tooDeep
  | cutNull fault | broken fault _ => .error fault

def documents : List Source → Except JsonFault (List Json)
  | [] => .ok []
  | doc :: rest => do return (← document doc) :: (← documents rest)

def documentsOfMembers :
    List (String × Source × Option JsonFault) → Except JsonFault (List (String × Json))
  | [] => .ok []
  | (name, doc, _) :: rest => do return (name, ← document doc) :: (← documentsOfMembers rest)

end

mutual

/-- The number of levels of a document. -/
def height : Source → Nat
  | array items _ => heightOfItems items + 1
  | object members _ => heightOfMembers members + 1
  | _ => 1

def heightOfItems : List Source → Nat
  | [] => 0
  | doc :: rest => max (height doc) (heightOfItems rest)

def heightOfMembers : List (String × Source × Option JsonFault) → Nat
  | [] => 0
  | (_, doc, _) :: rest => max (height doc) (heightOfMembers rest)

end

mutual

/-- Takes the document at the front of a text apart; `room` levels may be nested in it. -/
def scan (float : FloatOf) (room : Nat) : Nat → List Char → Source
  | 0, _ => broken .endInValue .endInValue
  | fuel + 1, cs =>
    match skipBlanks cs with
    | [] => broken .endInValue .endInValue
    | '"' :: rest =>
      match readQuoted [] (rest.length + 1) rest with
      | .ok (s, _) => string s
      | .error fault => broken fault fault
    | '[' :: rest =>
      match room with
      | 0 => deep true
      | room + 1 =>
        match skipBlanks rest with
        | ']' :: _ => array [] none
        | [] => array [] (some .endInList)
        | rest =>
          let (items, stop) := scanItems float room fuel rest
          array items stop
    | '\x7b' :: rest =>
      match room with
      | 0 => deep false
      | room + 1 =>
        match skipBlanks rest with
        | '\x7d' :: _ => object [] none
        | [] => nameless (broken .endInValue .endInValue) .endInObject
        | '"' :: rest =>
          let (members, stop) := scanMembers float room fuel rest
          object members stop
        | rest => nameless (scan float room fuel rest) .keyNotString
    | 'n' :: rest =>
      match readWord ['u', 'l', 'l'] rest with
      | .ok _ => null
      | .error fault => cutNull fault
    | cs =>
      match readPlain float cs with
      | .ok (doc, _) => ofJson doc
      | .error fault => broken fault .expectedValue

/-- Takes the items of a list apart, and says what is wrong after the last one. -/
def scanItems (float : FloatOf) (room : Nat) : Nat → List Char → List Source × Option JsonFault
  | 0, _ => ([], some .endInList)
  | fuel + 1, cs =>
    let item := scan float room fuel cs
    match afterValue cs with
    | .error fault => ([item], some fault)
    | .ok rest =>
      match skipBlanks rest with
      | ']' :: _ => ([item], none)
      | ',' :: rest =>
        match skipBlanks rest with
        | ']' :: _ => ([item], some .trailingComma)
        | [] => ([item], some .endInValue)
        | rest =>
          let (items, stop) := scanItems float room fuel rest
          (item :: items, stop)
      | [] => ([item], some .endInList)
      | _ => ([item], some .expectedListEnd)

/-- Takes the members of an object apart, from inside the first name on, and says what is wrong after
the last one. -/
def scanMembers (float : FloatOf) (room : Nat) :
    Nat → List Char → List (String × Source × Option JsonFault) × Option JsonFault
  | 0, _ => ([], some .endInObject)
  | fuel + 1, cs =>
    match readQuoted [] (cs.length + 1) cs with
    | .error fault => ([], some fault)
    | .ok (name, rest) =>
      match skipBlanks rest with
      | ':' :: rest =>
        let content := scan float room fuel rest
        match afterValue rest with
        | .error fault => ([(name, content, some fault)], some fault)
        | .ok rest =>
          let member := (name, content, none)
          match skipBlanks rest with
          | '\x7d' :: _ => ([member], none)
          | ',' :: rest =>
            match skipBlanks rest with
            | '"' :: rest =>
              let (members, stop) := scanMembers float room fuel rest
              (member :: members, stop)
            | '\x7d' :: _ => ([member], some .trailingComma)
            | [] => ([member], some .endInValue)
            | _ => ([member], some .keyNotString)
          | [] => ([member], some .endInObject)
          | _ => ([member], some .expectedObjectEnd)
      | [] => ([(name, broken .endInObject .endInObject, some .endInObject)], some .endInObject)
      | _ => ([(name, broken .expectedColon .expectedColon, some .expectedColon)], some .expectedColon)

end

/-- The document at the front of a text. At most 127 levels are taken apart. -/
def ofText (float : FloatOf) (s : String) : Source := scan float 127 (2 * s.length + 2) s.toList

end Source

end SqlScribe.Json

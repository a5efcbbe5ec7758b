import SqlScribe.Json.Scalar

/-!
# Passing over JSON

A member that nobody asks for is passed over. Less is checked then: numbers may be of any size,
strings may hold halves of characters, and nothing is nested too deep.
-/

namespace SqlScribe.Json

open SqlScribe.Text

/-- Passes over the rest of a string, up to its closing quote. -/
def skipString : Nat → List Char → Except JsonFault (List Char)
  | 0, _ | _, [] => .error .endInString
  | _ + 1, '"' :: rest => .ok rest
  | fuel + 1, '\\' :: 'u' :: rest => do
    let (_, rest) ← readHexUnit rest
    skipString fuel rest
  | fuel + 1, '\\' :: rest => do
    let (_, rest) ← readEscape rest
    skipString fuel rest
  | fuel + 1, c :: rest =>
    if c.toNat < 32 then .error .controlCharacter else skipString fuel rest

/-- Passes over one digit or more. -/
def skipDigits : List Char → Except JsonFault (List Char)
  | [] => .error .invalidNumber
  | c :: rest => if c.isDigit then .ok (rest.dropWhile Char.isDigit) else .error .invalidNumber

/-- Passes over the exponent of a number, if there is one. -/
def skipExponent : List Char → Except JsonFault (List Char)
  | 'e' :: rest | 'E' :: rest => skipDigits (splitSign rest).2
  | cs => .ok cs

/-- Passes over a number without its sign. -/
def skipNumber (cs : List Char) : Except JsonFault (List Char) := do
  let rest ← skipDigits cs
  if cs.head? == some '0' && (cs.drop 1).head?.any Char.isDigit then throw .invalidNumber
  match rest with
  | '.' :: more => skipExponent (← skipDigits more)
  | _ => skipExponent rest

mutual

/-- Passes over one document. -/
def skipValue : Nat → List Char → Except JsonFault (List Char)
  | 0, _ => .error .endInValue
  | fuel + 1, cs =>
    match skipBlanks cs with
    | '"' :: rest => skipString (rest.length + 1) rest
    | '-' :: rest => skipNumber rest
    | '[' :: rest =>
      match skipBlanks rest with
      | ']' :: rest => .ok rest
      | [] => .error .endInList
      | rest => skipItems fuel rest
    | '\x7b' :: rest =>
      match skipBlanks rest with
      | '\x7d' :: rest => .ok rest
      | rest => skipMembers fuel rest
    | c :: rest =>
      if c.isDigit then skipNumber (c :: rest) else (readKeyword (c :: rest)).map (·.2)
    | [] => .error .endInValue

/-- Passes over the items of a list and its closing bracket. -/
def skipItems : Nat → List Char → Except JsonFault (List Char)
  | 0, _ => .error .endInList
  | fuel + 1, cs => do
    match skipBlanks (← skipValue fuel cs) with
    | ']' :: rest => return rest
    | ',' :: rest => skipItems fuel rest
    | [] => throw .endInList
    | _ => throw .expectedListEnd

/-- Passes over the members of an object and its closing brace. -/
def skipMembers : Nat → List Char → Except JsonFault (List Char)
  | 0, _ => .error .endInObject
  | fuel + 1, cs =>
    match skipBlanks cs with
    | '"' :: rest => do
      match skipBlanks (← skipString (rest.length + 1) rest) with
      | ':' :: rest =>
        match skipBlanks (← skipValue fuel rest) with
        | '\x7d' :: rest => return rest
        | ',' :: rest => skipMembers fuel rest
        | [] => throw .endInObject
        | _ => throw .expectedObjectEnd
      | [] => throw .endInObject
      | _ => throw .expectedColon
    | [] => .error .endInObject
    | _ => .error .keyNotString

end

/-- What follows the one document at the front of a text. -/
def afterValue (cs : List Char) : Except JsonFault (List Char) := skipValue (2 * cs.length + 2) cs

end SqlScribe.Json

import SqlScribe.Number.Binary64.Text
import SqlScribe.Text.Letters

/-!
# JSON documents

The tree of a document, and its text. A number is an integer as long as it fits into 64 bits with
or without a sign, so that `1` and `1.0` stay apart.
-/

namespace SqlScribe

open SqlScribe.Text

/-- A JSON document. -/
inductive Json
  | null
  | bool (b : Bool)
  | integer (n : Int)
  | real (x : Binary64)
  | string (s : String)
  | array (items : List Json)
  | object (members : List (String × Json))

namespace Json

/-- One character inside a JSON string. -/
def escaped (c : Char) : List Char :=
  if c = '"' then ['\\', '"']
  else if c = '\\' then ['\\', '\\']
  else if c = '\n' then ['\\', 'n']
  else if c = '\r' then ['\\', 'r']
  else if c = '\t' then ['\\', 't']
  else if c.toNat = 8 then ['\\', 'b']
  else if c.toNat = 12 then ['\\', 'f']
  else if c.toNat < 32 then
    ['\\', 'u', '0', '0', lowerHexDigit (c.toNat / 16), lowerHexDigit (c.toNat % 16)]
  else [c]

/-- A JSON string. -/
def quote (s : String) : String := .ofList ('"' :: (s.toList.flatMap escaped ++ ['"']))

private def scalar : Json → String
  | null => "null"
  | bool b => if b then "true" else "false"
  | integer n => numeral n
  | real x => if x.isFinite then x.toDocumentText else "null"
  | string s => quote s
  | array _ => "[]"
  | object _ => "\x7b\x7d"

mutual

/-- The document on one line, without blanks. -/
def compact : Json → String
  | array items => "[" ++ compactItems items ++ "]"
  | object members => "\x7b" ++ compactMembers members ++ "\x7d"
  | doc => doc.scalar

def compactItems : List Json → String
  | [] => ""
  | [doc] => doc.compact
  | doc :: rest => doc.compact ++ "," ++ compactItems rest

def compactMembers : List (String × Json) → String
  | [] => ""
  | [(name, doc)] => quote name ++ ":" ++ doc.compact
  | (name, doc) :: rest => quote name ++ ":" ++ doc.compact ++ "," ++ compactMembers rest

end

private def lineStart (depth : Nat) : String :=
  .ofList ('\n' :: List.replicate (2 * depth) ' ')

mutual

/-- The document with every item and member on a line of its own, `depth` levels deep. -/
def prettyAt (depth : Nat) : Json → String
  | array (item :: items) =>
    "[" ++ lineStart (depth + 1) ++ item.prettyAt (depth + 1) ++ prettyItems (depth + 1) items ++
      lineStart depth ++ "]"
  | object ((name, doc) :: members) =>
    "\x7b" ++ lineStart (depth + 1) ++ quote name ++ ": " ++ doc.prettyAt (depth + 1) ++
      prettyMembers (depth + 1) members ++ lineStart depth ++ "\x7d"
  | doc => doc.scalar

def prettyItems (depth : Nat) : List Json → String
  | [] => ""
  | doc :: rest => "," ++ lineStart depth ++ doc.prettyAt depth ++ prettyItems depth rest

def prettyMembers (depth : Nat) : List (String × Json) → String
  | [] => ""
  | (name, doc) :: rest =>
    "," ++ lineStart depth ++ quote name ++ ": " ++ doc.prettyAt depth ++ prettyMembers depth rest

end

/-- The document laid out over several lines. -/
def pretty (doc : Json) : String := doc.prettyAt 0

end Json

end SqlScribe

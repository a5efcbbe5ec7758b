import SqlScribe.Text.Letters
import SqlScribe.Text.Numeral
import SqlScribe.Text.Pieces

/-!
# Globally unique identifiers

Sixteen bytes, written as thirty-two hexadecimal digits in five groups. Databases that store the
identifier as a blob hold the first three groups with their bytes in reverse order.
-/

namespace SqlScribe

open SqlScribe.Text

/-- A globally unique identifier, its bytes in the order of its digits. -/
structure Guid where
  bytes : List UInt8
  length_eq : bytes.length = 16
deriving DecidableEq

/-- Why a text is no identifier. -/
inductive GuidFault
  | character (c : Char) (position : Nat)
  | length (found : Nat)
  | groupCount (found : Nat)
  | groupLength (group expected found : Nat)
deriving DecidableEq

def GuidFault.message : GuidFault → String
  | character c position =>
    "invalid character: expected an optional prefix of `urn:uuid:` followed by [0-9a-fA-F-], found `" ++
      c.toString ++ "` at " ++ numeral position
  | length found => "invalid length: expected length 32 for simple format, found " ++ numeral found
  | groupCount found => "invalid group count: expected 5, found " ++ numeral found
  | groupLength group expected found =>
    "invalid group length in group " ++ numeral group ++ ": expected " ++ numeral expected ++
      ", found " ++ numeral found

namespace Guid

/-- The identifier with these bytes, if there are sixteen. -/
def of? (bytes : List UInt8) : Option Guid :=
  if h : bytes.length = 16 then some ⟨bytes, h⟩ else none

/-- All digits zero. -/
def nil : Guid := ⟨List.replicate 16 0, by simp⟩

/-- Where an identifier stands in the order by bytes. -/
def rank (g : Guid) : Nat := g.bytes.foldl (fun n b => n * 256 + b.toNat) 0

/-- Reverses the bytes of the first three groups. -/
def swapGroups : List UInt8 → List UInt8
  | a :: b :: c :: d :: e :: f :: g :: h :: rest => d :: c :: b :: a :: f :: e :: h :: g :: rest
  | bytes => bytes

theorem swapGroups_swapGroups : (bytes : List UInt8) → swapGroups (swapGroups bytes) = bytes
  | [] | [_] | [_, _] | [_, _, _] | [_, _, _, _] | [_, _, _, _, _] | [_, _, _, _, _, _]
  | [_, _, _, _, _, _, _] => rfl
  | _ :: _ :: _ :: _ :: _ :: _ :: _ :: _ :: _ => rfl

theorem length_swapGroups : (bytes : List UInt8) → (swapGroups bytes).length = bytes.length
  | [] | [_] | [_, _] | [_, _, _] | [_, _, _, _] | [_, _, _, _, _] | [_, _, _, _, _, _]
  | [_, _, _, _, _, _, _] => rfl
  | _ :: _ :: _ :: _ :: _ :: _ :: _ :: _ :: _ => rfl

/-- The bytes of the stored blob. -/
def toBlob (g : Guid) : List UInt8 := swapGroups g.bytes

/-- The identifier that a stored blob holds. -/
def ofBlob? (bytes : List UInt8) : Option Guid := of? (swapGroups bytes)

theorem ofBlob?_toBlob (g : Guid) : ofBlob? g.toBlob = some g := by
  simp [ofBlob?, toBlob, of?, swapGroups_swapGroups, g.length_eq]

/-- The thirty-two digits in groups of 8, 4, 4, 4 and 12. -/
def toChars (g : Guid) : List Char :=
  let ds := lowerHex g.bytes
  ds.take 8 ++ '-' :: (ds.drop 8).take 4 ++ '-' :: (ds.drop 12).take 4 ++
    '-' :: (ds.drop 16).take 4 ++ '-' :: ds.drop 20

/-- The identifier as text, in lower case. -/
def toText (g : Guid) : String := .ofList g.toChars

/-- Reads thirty-two digits without separators. -/
def ofDigits? (cs : List Char) : Option Guid :=
  if cs.length = 32 && cs.all isHexDigit then of? (hexBytes cs) else none

/-- Reads five groups separated by hyphens. -/
def ofGroups? (cs : List Char) : Option Guid :=
  if [8, 13, 18, 23].all fun i => cs[i]? == some '-' then
    ofDigits? (cs.take 8 ++ (cs.drop 9).take 4 ++ (cs.drop 14).take 4 ++ (cs.drop 19).take 4 ++
      cs.drop 24)
  else none

/-- The groups that a text of the right length has in braces or after `urn:uuid:`. -/
def unwrap? (cs : List Char) : Option (List Char) :=
  if byteLength cs = 38 && cs.head? == some '\x7b' && cs.getLast? == some '\x7d' then
    some (cs.drop 1).dropLast
  else if byteLength cs = 45 && (cs.take 9).map Char.toLower == "urn:uuid:".toList then
    some (cs.drop 9)
  else none

/-- Reads an identifier: thirty-two digits, five groups, five groups in braces, or five groups after
`urn:uuid:`. -/
def ofChars? (cs : List Char) : Option Guid :=
  match byteLength cs with
  | 32 => ofDigits? cs
  | 36 => ofGroups? cs
  | _ => (unwrap? cs).bind ofGroups?

/-- The first character that is neither a digit nor a hyphen, with its place in bytes. -/
def strayCharacter? (place : Nat) : List Char → Option GuidFault
  | [] => none
  | c :: rest =>
    if isHexDigit c || c == '-' then strayCharacter? (place + c.utf8Size) rest
    else some (.character c place)

/-- The first of the groups that has not the length it should have. -/
def unevenGroup? (group : Nat) : List Nat → List (List Char) → Option GuidFault
  | expected :: rest, piece :: pieces =>
    if piece.length = expected then unevenGroup? (group + 1) rest pieces
    else some (.groupLength group expected piece.length)
  | _, _ => none

/-- What is wrong with a text: a stray character first, then the number of groups, then the length
of a group. The last group is measured up to the end of the text. -/
def diagnose (cs : List Char) : GuidFault :=
  let (body, offset) :=
    if 2 ≤ cs.length && cs.head? == some '\x7b' && cs.getLast? == some '\x7d' then
      ((cs.drop 1).dropLast, 1)
    else if "urn:uuid:".toList.isPrefixOf cs then (cs.drop 9, 9)
    else (cs, 0)
  let pieces := splitChars '-' body
  (strayCharacter? (offset + 1) body).getD
    (if pieces.length = 1 && offset = 0 then .length cs.length
    else if pieces.length ≠ 5 then .groupCount pieces.length
    else (unevenGroup? 0 [8, 4, 4, 4] pieces).getD (.groupLength 4 12 (cs.length - 24)))

/-- Reads an identifier from text. -/
def ofText (s : String) : Except GuidFault Guid :=
  match ofChars? s.toList with
  | some g => .ok g
  | none => .error (diagnose ((unwrap? s.toList).getD s.toList))

end Guid

end SqlScribe

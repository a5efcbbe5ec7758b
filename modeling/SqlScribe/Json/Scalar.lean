import SqlScribe.Json
import SqlScribe.Json.Fault
import SqlScribe.Text.Pieces

/-!
# Words, numbers and strings of JSON

Each is taken off the front of a text, or the first thing that is wrong with it is named.
-/

namespace SqlScribe.Json

open SqlScribe.Text

/-- Space, tab and the ends of lines. -/
def isJsonBlank (c : Char) : Bool := c == ' ' || c == '\n' || c == '\t' || c == '\r'

def skipBlanks (cs : List Char) : List Char := cs.dropWhile isJsonBlank

/-- Takes the rest of a word off the front. -/
def readWord : List Char → List Char → Except JsonFault (List Char)
  | [], cs => .ok cs
  | _ :: _, [] => .error .endInValue
  | w :: word, c :: cs => if c = w then readWord word cs else .error .expectedWord

/-- Takes four hexadecimal digits off the front. A text of less than four bytes ends too early. -/
def readHexUnit (cs : List Char) : Except JsonFault (Nat × List Char) :=
  let ds := cs.take 4
  if ds.length = 4 && ds.all isHexDigit then
    .ok (ds.foldl (fun n c => n * 16 + hexValue c) 0, cs.drop 4)
  else if byteLength ds < 4 then .error .endInString
  else .error .invalidEscape

/-- Takes the second of two units that make up one character off the front. -/
def readLowUnit (high : Nat) : List Char → Except JsonFault (Char × List Char)
  | '\\' :: 'u' :: rest => do
    let (low, rest) ← readHexUnit rest
    if 0xDC00 ≤ low && low ≤ 0xDFFF then
      return (.ofNat (0x10000 + (high - 0xD800) * 0x400 + (low - 0xDC00)), rest)
    else throw .loneSurrogate
  | [] | ['\\'] => .error .endInString
  | _ => .error .shortHexEscape

/-- Takes the character that stands after `\u` off the front; two units may make up one. -/
def readUnicodeEscape (cs : List Char) : Except JsonFault (Char × List Char) := do
  let (unit, rest) ← readHexUnit cs
  if 0xDC00 ≤ unit && unit ≤ 0xDFFF then throw .loneSurrogate
  else if 0xD800 ≤ unit && unit ≤ 0xDBFF then readLowUnit unit rest
  else return (.ofNat unit, rest)

/-- Takes one escape sequence, after its backslash, off the front. -/
def readEscape : List Char → Except JsonFault (Char × List Char)
  | '"' :: rest => .ok ('"', rest)
  | '\\' :: rest => .ok ('\\', rest)
  | '/' :: rest => .ok ('/', rest)
  | 'b' :: rest => .ok (.ofNat 8, rest)
  | 'f' :: rest => .ok (.ofNat 12, rest)
  | 'n' :: rest => .ok ('\n', rest)
  | 'r' :: rest => .ok ('\r', rest)
  | 't' :: rest => .ok ('\t', rest)
  | 'u' :: rest => readUnicodeEscape rest
  | _ :: _ => .error .invalidEscape
  | [] => .error .endInString

/-- Takes the rest of a string, up to its closing quote, off the front. -/
def readQuoted (seen : List Char) : Nat → List Char → Except JsonFault (String × List Char)
  | 0, _ | _, [] => .error .endInString
  | _ + 1, '"' :: rest => .ok (.ofList seen.reverse, rest)
  | fuel + 1, '\\' :: rest => do
    let (c, rest) ← readEscape rest
    readQuoted (c :: seen) fuel rest
  | fuel + 1, c :: rest =>
    if c.toNat < 32 then .error .controlCharacter else readQuoted (c :: seen) fuel rest

/-- Takes one digit or more off the front. -/
def readDigits (cs : List Char) : Except JsonFault (List Char × List Char) :=
  match cs with
  | [] => .error .endInValue
  | c :: _ =>
    if c.isDigit then .ok (cs.takeWhile Char.isDigit, cs.dropWhile Char.isDigit)
    else .error .invalidNumber

/-- The whole number that digits and a sign stand for, if it is kept as one: it fits, and `-0` does
not. -/
def wholeNumber? (negative : Bool) (n : Nat) : Option Int :=
  if !negative && n ≤ 18446744073709551615 then some n
  else if negative && 0 < n && n ≤ 9223372036854775808 then some (-(n : Int))
  else none

/-- Takes a point and the digits behind it off the front, if there is one. -/
def readFraction : List Char → Except JsonFault (List Char × List Char)
  | '.' :: rest => readDigits rest
  | cs => .ok ([], cs)

/-- Takes a power of ten off the front, if there is one. -/
def readPower : List Char → Except JsonFault (Option Int × List Char)
  | 'e' :: rest | 'E' :: rest => do
    let (negative, rest) := splitSign rest
    let (ds, rest) ← readDigits rest
    let power : Int := ofDigits ds
    .ok (some (if negative then -power else power), rest)
  | cs => .ok (none, cs)

/-- How a float is made of a sign, the digits before the point and those behind it, and a power of
ten. Readers differ in it: one that multiplies by the power after rounding the digits is quicker,
and misses some numbers by their last digit. -/
abbrev FloatOf := Bool → List Char → List Char → Option Int → Binary64

/-- The float next to the number that the digits stand for. -/
def nearest : FloatOf := fun negative whole fraction power =>
  .ofDecimal negative (ofDigits (whole ++ fraction)) (power.getD 0 - fraction.length)

/-- Takes a number without its sign off the front. -/
def readNumber (float : FloatOf) (negative : Bool) (cs : List Char) :
    Except JsonFault (Json × List Char) := do
  let (whole, rest) ← readDigits cs
  if whole.head? == some '0' && 1 < whole.length then .error .invalidNumber
  let (fraction, rest) ← readFraction rest
  let (power, rest) ← readPower rest
  match if fraction.isEmpty && power.isNone then wholeNumber? negative (ofDigits whole)
    else none with
  | some n => .ok (integer n, rest)
  | none =>
    let x := float negative whole fraction power
    if x.isFinite then .ok (real x, rest) else .error .numberOutOfRange

/-- Takes one of the three words off the front. -/
def readKeyword : List Char → Except JsonFault (Json × List Char)
  | 'n' :: rest => (readWord ['u', 'l', 'l'] rest).map (null, ·)
  | 't' :: rest => (readWord ['r', 'u', 'e'] rest).map (bool true, ·)
  | 'f' :: rest => (readWord ['a', 'l', 's', 'e'] rest).map (bool false, ·)
  | _ :: _ => .error .expectedValue
  | [] => .error .endInValue

/-- Takes a word or a number off the front. -/
def readPlain (float : FloatOf) : List Char → Except JsonFault (Json × List Char)
  | '-' :: rest => readNumber float true rest
  | c :: rest => if c.isDigit then readNumber float false (c :: rest) else readKeyword (c :: rest)
  | [] => .error .endInValue

end SqlScribe.Json

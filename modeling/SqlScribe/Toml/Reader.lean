import SqlScribe.Text.Letters
import SqlScribe.Text.Numeral
import SqlScribe.Toml

/-!
# Reading TOML

A reader for TOML documents. It tells whether a text is one and what it says, but not where it goes
wrong. Every reader takes what it knows off the front of a text and gives the rest back.
-/

namespace SqlScribe.Toml

open SqlScribe.Text

/-- Spaces and tabs. -/
def isGap (c : Char) : Bool := c == ' ' || c == '\t'

def skipGap (cs : List Char) : List Char := cs.dropWhile isGap

/-- A control character that may stand nowhere, tabs excepted. -/
def isForbidden (c : Char) : Bool := (c.toNat < 32 && c ≠ '\t') || c.toNat == 127

/-- Takes the end of a line off the front. -/
def readLineEnd : List Char → Option (List Char)
  | '\n' :: rest => some rest
  | '\r' :: '\n' :: rest => some rest
  | _ => none

/-- Skips blanks and a comment up to the end of the line, which stays. -/
def skipToLineEnd (cs : List Char) : List Char :=
  match skipGap cs with
  | '#' :: rest => rest.dropWhile fun c => !isForbidden c
  | rest => rest

/-- Skips blanks, comments and ends of lines. -/
def skipLines : Nat → List Char → List Char
  | 0, cs => cs
  | fuel + 1, cs =>
    match readLineEnd (skipToLineEnd cs) with
    | some rest => skipLines fuel rest
    | none => skipToLineEnd cs

/-- A character that a name may hold without quotes. -/
def isBare (c : Char) : Bool := c.isAlphanum || c == '_' || c == '-'

/-- Takes the digits of a character's number off the front. -/
def readCodePoint (count : Nat) (cs : List Char) : Option (Char × List Char) :=
  let ds := cs.take count
  if ds.length ≠ count || !ds.all isHexDigit then none
  else
    let n := ds.foldl (fun n c => n * 16 + hexValue c) 0
    if h : n.isValidChar then some (.ofNatAux n h, cs.drop count) else none

/-- Takes an escape sequence, after its backslash, off the front. -/
def readEscape : List Char → Option (Char × List Char)
  | 'b' :: rest => some (.ofNat 8, rest)
  | 't' :: rest => some ('\t', rest)
  | 'n' :: rest => some ('\n', rest)
  | 'f' :: rest => some (.ofNat 12, rest)
  | 'r' :: rest => some ('\r', rest)
  | '"' :: rest => some ('"', rest)
  | '\\' :: rest => some ('\\', rest)
  | 'u' :: rest => readCodePoint 4 rest
  | 'U' :: rest => readCodePoint 8 rest
  | _ => none

/-- The rest of a string between double quotes. -/
def readBasicRest : Nat → List Char → Option (List Char × List Char)
  | 0, _ | _, [] => none
  | _ + 1, '"' :: rest => some ([], rest)
  | fuel + 1, '\\' :: rest => do
    let (c, rest) ← readEscape rest
    let (s, rest) ← readBasicRest fuel rest
    return (c :: s, rest)
  | fuel + 1, c :: rest => do
    if isForbidden c then none
    let (s, rest) ← readBasicRest fuel rest
    return (c :: s, rest)

/-- The rest of a string between single quotes, in which nothing is escaped. -/
def readLiteralRest (cs : List Char) : Option (List Char × List Char) :=
  let content := cs.takeWhile fun c => c ≠ '\x27' && !isForbidden c
  match cs.drop content.length with
  | '\x27' :: rest => some (content, rest)
  | _ => none

/-- The quotes that end a string of several lines; up to two more belong to the string. -/
def readClosing (quote : Char) (cs : List Char) : Option (List Char × List Char) :=
  let count := (cs.takeWhile (· == quote)).length
  if count < 3 then none
  else if count ≤ 5 then some (List.replicate (count - 3) quote, cs.drop count)
  else none

/-- Skips blanks and ends of lines. -/
def skipBlankLines : List Char → List Char
  | ' ' :: rest | '\t' :: rest | '\n' :: rest | '\r' :: '\n' :: rest => skipBlankLines rest
  | rest => rest

/-- Skips the end of a line that a backslash continues, and the blanks after it. -/
def skipContinued (cs : List Char) : Option (List Char) :=
  (readLineEnd (skipGap cs)).map skipBlankLines

/-- The rest of a string of several lines between triple quotes. -/
def readLongRest (quote : Char) : Nat → List Char → Option (List Char × List Char)
  | 0, _ | _, [] => none
  | fuel + 1, c :: rest =>
    if c = quote then
      match readClosing quote (c :: rest) with
      | some found => some found
      | none => do
        if (rest.take 2).all (· == quote) && 2 ≤ rest.length then none
        let (s, rest) ← readLongRest quote fuel rest
        return (c :: s, rest)
    else if c = '\\' ∧ quote = '"' then
      match skipContinued rest with
      | some rest => readLongRest quote fuel rest
      | none => do
        let (e, rest) ← readEscape rest
        let (s, rest) ← readLongRest quote fuel rest
        return (e :: s, rest)
    else
      match readLineEnd (c :: rest) with
      | some rest => do
        let (s, rest) ← readLongRest quote fuel rest
        return ('\n' :: s, rest)
      | none => do
        if isForbidden c then none
        let (s, rest) ← readLongRest quote fuel rest
        return (c :: s, rest)

/-- Takes a string of any kind off the front. -/
def readString : List Char → Option (List Char × List Char)
  | '"' :: '"' :: '"' :: rest =>
    let rest := (readLineEnd rest).getD rest
    readLongRest '"' (rest.length + 1) rest
  | '\x27' :: '\x27' :: '\x27' :: rest =>
    let rest := (readLineEnd rest).getD rest
    readLongRest '\x27' (rest.length + 1) rest
  | '"' :: rest => readBasicRest (rest.length + 1) rest
  | '\x27' :: rest => readLiteralRest rest
  | _ => none

/-- Takes one name off the front. -/
def readName (cs : List Char) : Option (String × List Char) :=
  match cs with
  | '"' :: rest => do
    let (s, rest) ← readBasicRest (rest.length + 1) rest
    return (.ofList s, rest)
  | '\x27' :: rest => do
    let (s, rest) ← readLiteralRest rest
    return (.ofList s, rest)
  | _ =>
    let name := cs.takeWhile isBare
    if name.isEmpty then none else some (.ofList name, cs.drop name.length)

/-- Takes names separated by points off the front. -/
def readPath : Nat → List Char → Option (List String × List Char)
  | 0, _ => none
  | fuel + 1, cs => do
    let (name, rest) ← readName (skipGap cs)
    match skipGap rest with
    | '.' :: more => do
      let (path, rest) ← readPath fuel more
      return (name :: path, rest)
    | rest => return ([name], rest)

/-- Digits with single underscores between them, the underscores taken out. -/
def plainDigits (isDigit : Char → Bool) : List Char → Option (List Char)
  | [] => none
  | [c] => if isDigit c then some [c] else none
  | c :: '_' :: rest => if isDigit c then (plainDigits isDigit rest).map (c :: ·) else none
  | c :: rest => if isDigit c then (plainDigits isDigit rest).map (c :: ·) else none

/-- Digits that a number in base ten may begin with: no zero in front of others. -/
def wholeDigits (cs : List Char) : Option (List Char) := do
  let ds ← plainDigits Char.isDigit cs
  if ds.head? == some '0' && 1 < ds.length then none else return ds

/-- An integer of 64 bits. -/
def fitInteger (n : Int) : Option Toml :=
  if -9223372036854775808 ≤ n ∧ n ≤ 9223372036854775807 then some (integer n) else none

/-- The number that digits of a base stand for. -/
def inBase (base : Nat) (isDigit : Char → Bool) (cs : List Char) : Option Toml := do
  let ds ← plainDigits isDigit cs
  fitInteger (ds.foldl (fun n c => n * base + hexValue c) 0 : Nat)

/-- A number with a point or an exponent. -/
def readFloat? (cs : List Char) : Option Toml := do
  let mantissa := cs.takeWhile fun c => c ≠ 'e' && c ≠ 'E'
  let whole := mantissa.takeWhile (· ≠ '.')
  let _ ← wholeDigits whole
  if whole.length < mantissa.length then
    let _ ← plainDigits Char.isDigit (mantissa.drop (whole.length + 1))
  if mantissa.length < cs.length then
    let _ ← plainDigits Char.isDigit (splitSign (cs.drop (mantissa.length + 1))).2
  if cs.length = whole.length then none else return float

/-- Two digits that stand for a number of at most some size. -/
def readPair (least most : Nat) : List Char → Option (List Char)
  | a :: b :: rest =>
    if a.isDigit && b.isDigit && least ≤ ofDigits [a, b] && ofDigits [a, b] ≤ most then some rest
    else none
  | _ => none

/-- Takes a time of day off the front. -/
def readClock (cs : List Char) : Option (List Char) := do
  let rest ← readPair 0 23 cs
  let rest ← if rest.head? == some ':' then readPair 0 59 rest.tail else none
  let rest ← if rest.head? == some ':' then readPair 0 60 rest.tail else none
  match rest with
  | '.' :: more =>
    if (more.head?.map Char.isDigit).getD false then return more.dropWhile Char.isDigit else none
  | rest => return rest

/-- Takes the distance to universal time off the front. -/
def readOffset : List Char → Option (List Char)
  | 'Z' :: rest | 'z' :: rest => some rest
  | c :: rest =>
    if c = '+' ∨ c = '-' then do
      let rest ← readPair 0 23 rest
      if rest.head? == some ':' then readPair 0 59 rest.tail else none
    else some (c :: rest)
  | [] => some []

/-- A date, a time of day or both. -/
def readDateTime? (cs : List Char) : Option Toml := do
  if (readClock cs) == some [] then return dateTime
  if (cs.take 4).length < 4 || !(cs.take 4).all Char.isDigit then none
  let rest := cs.drop 4
  let rest ← if rest.head? == some '-' then readPair 1 12 rest.tail else none
  let rest ← if rest.head? == some '-' then readPair 1 31 rest.tail else none
  match rest with
  | [] => return dateTime
  | c :: rest =>
    if c = 'T' ∨ c = 't' ∨ c = ' ' then do
      let rest ← readClock rest
      let rest ← readOffset rest
      if rest.isEmpty then return dateTime else none
    else none

/-- The value that a word without quotes stands for. -/
def ofWord (cs : List Char) : Option Toml :=
  match cs with
  | ['t', 'r', 'u', 'e'] => some (bool true)
  | ['f', 'a', 'l', 's', 'e'] => some (bool false)
  | '0' :: 'x' :: ds => inBase 16 isHexDigit ds
  | '0' :: 'o' :: ds => inBase 8 (fun c => c.isDigit && c.toNat < 56) ds
  | '0' :: 'b' :: ds => inBase 2 (fun c => c == '0' || c == '1') ds
  | _ =>
    let (negative, digits) := splitSign cs
    if digits = ['i', 'n', 'f'] ∨ digits = ['n', 'a', 'n'] then some float
    else
      match wholeDigits digits with
      | some ds => fitInteger (if negative then -(ofDigits ds : Int) else ofDigits ds)
      | none => (readFloat? digits).orElse fun _ => readDateTime? cs

/-- A character of a word without quotes. -/
def isWordChar (c : Char) : Bool := isBare c || c == '+' || c == '.' || c == ':'

/-- Takes a word off the front; a blank may stand between a date and a time. -/
def readWord (cs : List Char) : List Char × List Char :=
  let word := cs.takeWhile isWordChar
  match cs.drop word.length with
  | ' ' :: rest =>
    if (readDateTime? word).isSome && word.length = 10 && (rest.head?.map Char.isDigit).getD false then
      (word ++ ' ' :: rest.takeWhile isWordChar, rest.dropWhile isWordChar)
    else (word, ' ' :: rest)
  | rest => (word, rest)

mutual

/-- Takes a value off the front. -/
def readValue : Nat → List Char → Option (Toml × List Char)
  | 0, _ => none
  | fuel + 1, cs =>
    match cs with
    | [] => none
    | '[' :: rest => do
      let (items, rest) ← readItems fuel (skipLines rest.length rest)
      return (array items, rest)
    | '\x7b' :: rest =>
      match skipGap rest with
      | '\x7d' :: rest => some (table .closed [], rest)
      | rest => do
        let (members, rest) ← readMembers fuel [] rest
        return (table .closed members, rest)
    | c :: _ =>
      if c = '"' ∨ c = '\x27' then do
        let (s, rest) ← readString cs
        return (string (.ofList s), rest)
      else do
        let (word, rest) := readWord cs
        return (← ofWord word, rest)

/-- Takes the items of an array and its closing bracket off the front. -/
def readItems : Nat → List Char → Option (List Toml × List Char)
  | 0, _ => none
  | fuel + 1, cs =>
    match cs with
    | ']' :: rest => some ([], rest)
    | _ => do
      let (item, rest) ← readValue fuel cs
      match skipLines rest.length rest with
      | ']' :: rest => return ([item], rest)
      | ',' :: rest => do
        let (items, rest) ← readItems fuel (skipLines rest.length rest)
        return (item :: items, rest)
      | _ => none

/-- Takes the members of a table and its closing brace off the front. -/
def readMembers : Nat → Members → List Char → Option (Members × List Char)
  | 0, _, _ => none
  | fuel + 1, members, cs => do
    let (path, rest) ← readPath (cs.length + 1) cs
    match rest with
    | '=' :: rest =>
      let (value, rest) ← readValue fuel (skipGap rest)
      let members ← assign members path value
      match skipGap rest with
      | '\x7d' :: rest => return (members, rest)
      | ',' :: rest => readMembers fuel members rest
      | _ => none
    | _ => none

end

/-- Reads one line with a name and a value into the table that the last header opened. -/
def readAssignment (current : List String) (members : Members) (cs : List Char) :
    Option (Members × List Char) := do
  let (path, rest) ← readPath (cs.length + 1) cs
  match rest with
  | '=' :: rest =>
    let (value, rest) ← readValue (rest.length + 1) (skipGap rest)
    return (← within (fun inner => assign inner path value) members current, rest)
  | _ => none

/-- Reads a header. It gives the path of the table that it opens. -/
def readHeader (members : Members) (cs : List Char) :
    Option (List String × Members × List Char) := do
  let isList := cs.head? == some '['
  let cs := if isList then cs.tail else cs
  let (path, rest) ← readPath (cs.length + 1) cs
  let change := if isList then addTable (path.getLast?.getD "") else openTable (path.getLast?.getD "")
  let members ← within change members path.dropLast
  match rest, isList with
  | ']' :: ']' :: rest, true => return (path, members, rest)
  | ']' :: rest, false => return (path, members, rest)
  | _, _ => none

/-- Reads the rest of a document; `current` is the table that the last header opened. -/
def readLines (current : List String) (members : Members) : Nat → List Char → Option Members
  | 0, _ => none
  | fuel + 1, cs =>
    match skipLines cs.length cs with
    | [] => some members
    | '[' :: rest => do
      let (current, members, rest) ← readHeader members rest
      afterLine current members fuel rest
    | rest => do
      let (members, rest) ← readAssignment current members rest
      afterLine current members fuel rest
where
  /-- Goes on after a line, on which nothing but a comment may follow. -/
  afterLine (current : List String) (members : Members) (fuel : Nat) (cs : List Char) :
      Option Members :=
    match skipToLineEnd cs with
    | [] => some members
    | rest => (readLineEnd rest).bind fun rest => readLines current members fuel rest

/-- Reads a whole document. -/
def read? (s : String) : Option Members :=
  let cs := match s.toList with
    | c :: rest => if c.toNat = 0xFEFF then rest else c :: rest
    | [] => []
  readLines [] [] (cs.length + 1) cs

end SqlScribe.Toml

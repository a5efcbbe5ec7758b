import SqlScribe.Literal
import SqlScribe.Text.Blank
import SqlScribe.Text.Pieces

/-!
# Reading literals

Every way in which a dialect writes a value is understood:

    NULL  CAST(NULL AS type)  TRUE  FALSE  42  -1.5e3
    'text'  N'text'  #2024-01-31#  TO_DATE('2024-01-31', 'YYYY-MM-DD')
    X'0A0B'  0x0A0B  '\x0a0b'::bytea  BLOB(X'0A0B')

The forms are tried in a fixed order and the first that fits wins. A reader takes what it knows off
the front of a text and gives the rest back.
-/

namespace SqlScribe.Literal

open SqlScribe.Text

/-- Takes one given character off the front. -/
def readChar (wanted : Char) : List Char → Option (List Char)
  | [] => none
  | c :: rest => if c = wanted then some rest else none

/-- Takes a word off the front, its letters in any case. -/
def readWord : List Char → List Char → Option (List Char)
  | [], cs => some cs
  | _ :: _, [] => none
  | w :: word, c :: cs => if c.toLower = w.toLower then readWord word cs else none

/-- A space, a tab or the end of a line. -/
def isSpace (c : Char) : Bool := c == ' ' || c == '\t' || c == '\r' || c == '\n'

/-- Takes any spaces off the front. -/
def skipSpaces (cs : List Char) : List Char := cs.dropWhile isSpace

/-- Takes one space or more off the front. -/
def readSpaces (cs : List Char) : Option (List Char) :=
  if (cs.head?.map isSpace).getD false then some (skipSpaces cs) else none

/-- Takes one digit or more off the front. -/
def readDigits (cs : List Char) : Option (List Char × List Char) :=
  if (cs.head?.map Char.isDigit).getD false then
    some (cs.takeWhile Char.isDigit, cs.dropWhile Char.isDigit)
  else none

/-- The rest of a text up to its closing quote; two quotes stand for one. -/
def readQuotedRest : List Char → Option (List Char × List Char)
  | [] => none
  | '\x27' :: '\x27' :: rest => (readQuotedRest rest).map fun (s, rest) => ('\x27' :: s, rest)
  | '\x27' :: rest => some ([], rest)
  | c :: rest => (readQuotedRest rest).map fun (s, rest) => (c :: s, rest)

/-- Takes a text between single quotes off the front. -/
def readQuoted (cs : List Char) : Option (List Char × List Char) :=
  (readChar '\x27' cs).bind readQuotedRest

/-- A point with digits behind it, if there is one. -/
def readFraction (cs : List Char) : List Char × List Char :=
  match (readChar '.' cs).bind readDigits with
  | some (ds, rest) => ('.' :: ds, rest)
  | none => ([], cs)

/-- A power of ten, if there is one. -/
def readExponent (cs : List Char) : List Char × List Char :=
  match cs with
  | [] => ([], cs)
  | e :: more =>
    if e = 'e' ∨ e = 'E' then
      let (sign, digits) := match more with
        | [] => ([], more)
        | c :: after => if c = '+' ∨ c = '-' then ([c], after) else ([], more)
      match readDigits digits with
      | some (ds, rest) => (e :: sign ++ ds, rest)
      | none => ([], cs)
    else ([], cs)

/-- Splits an optional minus sign off. -/
def splitMinus (cs : List Char) : List Char × List Char :=
  match readChar '-' cs with
  | some rest => (['-'], rest)
  | none => ([], cs)

/-- Takes a number off the front. -/
def readNumber (cs : List Char) : Option (List Char × List Char) := do
  let (sign, rest) := splitMinus cs
  let (whole, rest) ← readDigits rest
  let (fraction, rest) := readFraction rest
  let (exponent, rest) := readExponent rest
  return (sign ++ whole ++ fraction ++ exponent, rest)

/-- `CAST(NULL AS type)`, the type being anything up to the first closing parenthesis. -/
def readTypedNull (cs : List Char) : Option (List Char) := do
  let rest ← readWord "CAST".toList cs
  let rest ← readChar '(' (skipSpaces rest)
  let rest ← readWord "NULL".toList (skipSpaces rest)
  let rest ← readSpaces rest
  let rest ← readWord "AS".toList rest
  let rest ← readSpaces rest
  readChar ')' (rest.dropWhile (· ≠ ')'))

/-- `TO_DATE('value', 'format')` or `TO_TIMESTAMP('value', 'format')`; the format is passed over. -/
def readDateCall (cs : List Char) : Option (List Char × List Char) := do
  let rest ← (readWord "TO_TIMESTAMP".toList cs).orElse fun _ => readWord "TO_DATE".toList cs
  let rest ← readChar '(' (skipSpaces rest)
  let (content, rest) ← readQuoted (skipSpaces rest)
  let rest ← readChar ',' (skipSpaces rest)
  let (_, rest) ← readQuoted (skipSpaces rest)
  let rest ← readChar ')' (skipSpaces rest)
  return (content, rest)

/-- `BLOB(X'0A0B')` -/
def readBlobCall (cs : List Char) : Option (List Char × List Char) := do
  let rest ← readWord "BLOB".toList cs
  let rest ← readChar '(' (skipSpaces rest)
  let rest ← readWord "X".toList (skipSpaces rest)
  let (digits, rest) ← readQuoted rest
  let rest ← readChar ')' (skipSpaces rest)
  return (digits, rest)

/-- `0x0A0B`, with any number of digits. -/
def readPlainHex (cs : List Char) : Option (List Char × List Char) := do
  let rest ← readWord "0x".toList cs
  return (rest.takeWhile isHexDigit, rest.dropWhile isHexDigit)

/-- `X'0A0B'` -/
def readQuotedHex (cs : List Char) : Option (List Char × List Char) := do
  readQuoted (← readWord "X".toList cs)

/-- A text without the mark of a byte string. -/
def withoutHexMark : List Char → List Char
  | '\\' :: 'x' :: digits => digits
  | digits => digits

/-- `'\x0a0b'::bytea` -/
def readByteString (cs : List Char) : Option (List Char × List Char) := do
  let (content, rest) ← readQuoted cs
  let rest ← readWord "::bytea".toList rest
  return (withoutHexMark content, rest)

/-- `'text'` or `N'text'` -/
def readText (cs : List Char) : Option (List Char × List Char) :=
  readQuoted ((readWord "N".toList cs).getD cs)

/-- `#2024-01-31#`, with at least one character between the marks. -/
def readHashed (cs : List Char) : Option (List Char × List Char) := do
  let rest ← readChar '#' cs
  let content := rest.takeWhile (· ≠ '#')
  let after ← readChar '#' (rest.dropWhile (· ≠ '#'))
  if content.isEmpty then none else return (content, after)

/-- The forms of a literal, in the order in which they are tried. -/
def forms : List (List Char → Option (Literal × List Char)) :=
  [fun cs => (readWord "NULL".toList cs).map (null, ·),
    fun cs => (readTypedNull cs).map (null, ·),
    fun cs => (readWord "TRUE".toList cs).map (bool true, ·),
    fun cs => (readWord "FALSE".toList cs).map (bool false, ·),
    fun cs => (readDateCall cs).map fun (s, rest) => (text s, rest),
    fun cs => (readBlobCall cs).map fun (ds, rest) => (hex ds, rest),
    fun cs => (readPlainHex cs).map fun (ds, rest) => (hex ds, rest),
    fun cs => (readQuotedHex cs).map fun (ds, rest) => (hex ds, rest),
    fun cs => (readByteString cs).map fun (ds, rest) => (hex ds, rest),
    fun cs => (readText cs).map fun (s, rest) => (text s, rest),
    fun cs => (readHashed cs).map fun (s, rest) => (text s, rest),
    fun cs => (readNumber cs).map fun (ds, rest) => (number ds, rest)]

/-- Takes a literal off the front. -/
def read? (cs : List Char) : Option (Literal × List Char) := forms.findSome? (· cs)

/-- Reads a whole text, blanks around it disregarded, as one literal. -/
def ofChars (cs : List Char) : Except Fault Literal :=
  let cs := strip isBlank cs
  match read? cs with
  | some (literal, []) => .ok literal
  | some (_, rest) =>
    .error (.literal (.trailing (byteLength cs - byteLength rest) (.ofList rest)))
  | none => .error (.literal (.notLiteral (.ofList (splitMinus cs).2)))

end SqlScribe.Literal

namespace SqlScribe.Value

/-- The value of a type that the text of a literal stands for. -/
def ofLiteral (s : String) (type : ColumnType) : Except Fault Value := do
  (← Literal.ofChars s.toList).toValue type

end SqlScribe.Value

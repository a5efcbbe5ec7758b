import SqlScribe.Calendar.Moment
import SqlScribe.Text.Blank
import SqlScribe.Text.Numeral

/-!
# Date patterns

A pattern is a list of marks. Written, each mark gives its part of a moment; read, each mark takes
its part off the front of a text, and the parts together name a moment or none. What stops the
reading first is reported.
-/

namespace SqlScribe

open SqlScribe.Text

/-- One mark of a pattern. -/
inductive Mark
  | year
  | month
  | day
  | hour
  | minute
  | second
  /-- Nothing, or a point and the fewest of three, six or nine digits that are exact. -/
  | fraction
  /-- A point and six digits; the rest is cut off. -/
  | microseconds
  /-- Any number of blanks when read, one space when written. -/
  | gap
  | text (c : Char)
deriving DecidableEq

abbrev Pattern := List Mark

/-- The parts that reading a pattern collects. -/
structure DateParts where
  year : Int := 1
  month : Nat := 1
  day : Nat := 1
  hour : Nat := 0
  minute : Nat := 0
  second : Nat := 0
  nano : Nat := 0

/-- Why a text does not follow a pattern. -/
inductive PatternFault
  /-- A part has no such value, or the parts together name no day. -/
  | outOfRange
  | invalid
  /-- The text ends inside the pattern. -/
  | tooShort
  /-- The pattern ends inside the text. -/
  | tooLong
deriving DecidableEq

def PatternFault.message : PatternFault → String
  | outOfRange => "input is out of range"
  | invalid => "input contains invalid characters"
  | tooShort => "premature end of input"
  | tooLong => "trailing input"

namespace DateParts

def date (p : DateParts) : Except PatternFault Date :=
  match Date.of? p.year p.month p.day with
  | some date => .ok date
  | none => .error .outOfRange

def time (p : DateParts) : Except PatternFault Time :=
  match Time.ofClock? p.hour p.minute p.second p.nano with
  | some time => .ok time
  | none => .error .outOfRange

def dateTime (p : DateParts) : Except PatternFault DateTime := do return ⟨← p.date, ← p.time⟩

end DateParts

namespace Mark

/-- A year: four digits at least, and a sign unless it lies between 0 and 9999. -/
def writeYear (year : Int) : List Char :=
  if 0 ≤ year ∧ year ≤ 9999 then paddedDigits 4 year.toNat
  else (if year < 0 then '-' else '+') :: paddedDigits 4 year.natAbs

/-- The fraction of a second in groups of three digits. -/
def writeFraction (nano : Nat) : List Char :=
  if nano = 0 then []
  else if nano % 1000000 = 0 then '.' :: paddedDigits 3 (nano / 1000000)
  else if nano % 1000 = 0 then '.' :: paddedDigits 6 (nano / 1000)
  else '.' :: paddedDigits 9 nano

/-- The part of a moment that a mark stands for. -/
def write (moment : DateTime) : Mark → List Char
  | year => writeYear moment.date.year
  | month => paddedDigits 2 moment.date.month
  | day => paddedDigits 2 moment.date.day
  | hour => paddedDigits 2 moment.time.hour
  | minute => paddedDigits 2 moment.time.minute
  | second => paddedDigits 2 moment.time.clockSecond
  | fraction => writeFraction moment.time.fraction
  | microseconds => '.' :: paddedDigits 6 (moment.time.fraction / 1000)
  | gap => [' ']
  | text c => [c]

/-- Takes at most `width` digits off the front, at least one. -/
def takeDigits (width : Nat) (cs : List Char) : Except PatternFault (Nat × List Char) :=
  let ds := (cs.take width).takeWhile Char.isDigit
  if cs.isEmpty then .error .tooShort
  else if ds.isEmpty then .error .invalid
  else .ok (ofDigits ds, cs.drop ds.length)

/-- Takes a number of one or two digits off the front, blanks before it included. -/
def readShort (least greatest : Nat) (cs : List Char) : Except PatternFault (Nat × List Char) := do
  let (n, rest) ← takeDigits 2 (cs.dropWhile isBlank)
  if least ≤ n && n ≤ greatest then return (n, rest) else throw .outOfRange

/-- Takes a year off the front, blanks before it included. With a sign it may have any number of
digits, without one at most four. -/
def readYear (cs : List Char) : Except PatternFault (Int × List Char) := do
  let (n, rest) ←
    match cs.dropWhile isBlank with
    | '-' :: rest => (takeDigits rest.length rest).map fun (n, rest) => (-(n : Int), rest)
    | '+' :: rest => (takeDigits rest.length rest).map fun (n, rest) => ((n : Int), rest)
    | rest => (takeDigits 4 rest).map fun (n, rest) => ((n : Int), rest)
  if -2147483648 ≤ n && n ≤ 2147483647 then return (n, rest) else throw .outOfRange

/-- Takes a fraction of a second off the front, as nanoseconds. Digits after the ninth are passed
over. -/
def readFraction (cs : List Char) : Except PatternFault (Nat × List Char) :=
  match cs with
  | '.' :: rest =>
    (takeDigits 9 rest).map fun (n, after) =>
      (n * Nat.pow 10 (9 - (rest.length - after.length)), after.dropWhile Char.isDigit)
  | _ => .ok (0, cs)

/-- Takes the part that a mark stands for off the front of a text. -/
def read (parts : DateParts) (cs : List Char) : Mark → Except PatternFault (DateParts × List Char)
  | year => (readYear cs).map fun (n, rest) => ({ parts with year := n }, rest)
  | month => (readShort 1 12 cs).map fun (n, rest) => ({ parts with month := n }, rest)
  | day => (readShort 1 31 cs).map fun (n, rest) => ({ parts with day := n }, rest)
  | hour => (readShort 0 23 cs).map fun (n, rest) => ({ parts with hour := n }, rest)
  | minute => (readShort 0 59 cs).map fun (n, rest) => ({ parts with minute := n }, rest)
  | second => (readShort 0 60 cs).map fun (n, rest) => ({ parts with second := n }, rest)
  | fraction | microseconds =>
    (readFraction cs).map fun (n, rest) => ({ parts with nano := n }, rest)
  | gap => .ok (parts, cs.dropWhile isBlank)
  | text c =>
    match cs with
    | d :: rest => if d = c then .ok (parts, rest) else .error .invalid
    | [] => .error .tooShort

end Mark

namespace Pattern

/-- A moment written by a pattern. -/
def write (pattern : Pattern) (moment : DateTime) : List Char := pattern.flatMap (·.write moment)

/-- Reads the marks one after the other from the front of a text. -/
def readFrom (parts : DateParts) (cs : List Char) :
    Pattern → Except PatternFault (DateParts × List Char)
  | [] => .ok (parts, cs)
  | mark :: rest => do
    let (parts, cs) ← mark.read parts cs
    readFrom parts cs rest

/-- Reads a whole text. -/
def read (pattern : Pattern) (cs : List Char) : Except PatternFault DateParts := do
  let (parts, rest) ← readFrom {} cs pattern
  if rest.isEmpty then return parts else throw .tooLong

open Mark

/-- `2024-01-31` -/
def dashedDate : Pattern := [year, text '-', month, text '-', day]

/-- `20240131` -/
def compactDate : Pattern := [year, month, day]

/-- `01/31/2024` -/
def slashedDate : Pattern := [month, text '/', day, text '/', year]

/-- `08:30:00` -/
def clock : Pattern := [hour, text ':', minute, text ':', second]

/-- `08:30:00.125` -/
def preciseClock : Pattern := clock ++ [fraction]

end Pattern

namespace Date

/-- A day written by a pattern that holds no time. -/
def write (pattern : Pattern) (d : Date) : List Char := pattern.write (.startOf d)

end Date

namespace Time

/-- A time of day written by a pattern that holds no date. -/
def write (pattern : Pattern) (t : Time) : List Char := pattern.write ⟨.first, t⟩

end Time

end SqlScribe

import SqlScribe.Calendar.Pattern

/-!
# Formats of dates and times

Documents hold dates and times in one fixed format. Text that is converted to a date may use any of
several, tried in order.
-/

namespace SqlScribe

open SqlScribe.Text

namespace Pattern

open Mark

/-- A date as documents hold it, blanks allowed before the hyphens. -/
def documentDate : Pattern := [year, gap, text '-', month, gap, text '-', day]

/-- Hours and minutes, blanks allowed before the colon. -/
def hourAndMinute : Pattern := [hour, gap, text ':', minute]

/-- Seconds and their fraction, blanks allowed before the colon. -/
def secondAndFraction : Pattern := [gap, text ':', second, fraction]

/-- `2024-01-31T08:30:00.125` -/
def dateTime : Pattern := dashedDate ++ text 'T' :: preciseClock

/-- A moment as documents hold it, blanks allowed before the separators. -/
def documentDateTime : Pattern := documentDate ++ [gap, text 'T'] ++ hourAndMinute ++ secondAndFraction

/-- The formats of a moment that conversion from text knows. -/
def dateTimes : List Pattern :=
  [dashedDate ++ gap :: preciseClock, dateTime, compactDate ++ gap :: preciseClock,
    slashedDate ++ gap :: clock]

/-- The formats of a day that conversion from text knows. -/
def dates : List Pattern := [dashedDate, compactDate, slashedDate]

end Pattern

/-- `2024-01-31`, as documents hold it. -/
def Date.toText (d : Date) : String := .ofList (d.write .dashedDate)

/-- Reads a day from a document. -/
def Date.ofText (s : String) : Except PatternFault Date := do
  (← Pattern.read (Pattern.documentDate ++ [.gap]) s.toList).date

/-- `08:30:00.125`, as documents hold it. -/
def Time.toText (t : Time) : String := .ofList (t.write .preciseClock)

/-- Reads a time of day from a document; the seconds may be missing. -/
def Time.ofText (s : String) : Except PatternFault Time := do
  let (parts, rest) ← Pattern.readFrom {} s.toList .hourAndMinute
  let (parts, rest) :=
    match Pattern.readFrom parts rest .secondAndFraction with
    | .ok (parts, rest) => (parts, rest)
    | .error _ => (parts, rest)
  if rest.all isBlank then parts.time else throw .tooLong

/-- Converts free text to a time of day. -/
def Time.ofFreeText? (s : String) : Option Time :=
  ((Pattern.read .preciseClock (strip isBlank s.toList)).bind DateParts.time).toOption

/-- `2024-01-31T08:30:00.125`, as documents hold it. -/
def DateTime.toText (m : DateTime) : String := .ofList (Pattern.write .dateTime m)

/-- Reads a moment from a document. -/
def DateTime.ofText (s : String) : Except PatternFault DateTime := do
  (← Pattern.read (Pattern.documentDateTime ++ [.gap]) s.toList).dateTime

/-- Converts free text to a moment; a day alone stands for its beginning. -/
def DateTime.ofFreeText? (s : String) : Option DateTime :=
  let cs := strip isBlank s.toList
  let moments := Pattern.dateTimes.findSome? fun p =>
    ((Pattern.read p cs).bind DateParts.dateTime).toOption
  moments.orElse fun _ =>
    (Pattern.dates.findSome? fun p => ((Pattern.read p cs).bind DateParts.date).toOption).map
      startOf

end SqlScribe

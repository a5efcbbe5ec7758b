import SqlScribe.Calendar.Format
import SqlScribe.Number.Binary64.Text
import SqlScribe.Number.Decimal.Text
import SqlScribe.Value

/-!
# Values as text

How a message shows a value, and the text a value becomes when it is converted to text.
-/

namespace SqlScribe.Value

open SqlScribe.Text

/-- The value as a message shows it: text in quotes, times to the second. -/
def display : Value → String
  | null => "NULL"
  | bool b => if b then "true" else "false"
  | int n => numeral n.toInt
  | float x => x.toText
  | money d => d.toText
  | string s => "'" ++ s ++ "'"
  | date d => d.toText
  | time t => .ofList (t.write .clock)
  | dateTime m => .ofList (Pattern.write (Pattern.dashedDate ++ .gap :: Pattern.clock) m)
  | guid g => g.toText
  | binary bytes => .ofList ('0' :: 'x' :: upperHex bytes)

/-- The value as plain text. -/
def plainText : Value → String
  | string s => s
  | v => v.display

end SqlScribe.Value

import SqlScribe.Dialect.Features
import SqlScribe.Fault

/-!
# Identifiers in SQL

The written forms of a name, each of which can be read back: a closing mark inside the name is
doubled, or escaped with a backslash.
-/

namespace SqlScribe

open SqlScribe.Text

namespace Identifier

/-- A character that a plain word may hold. -/
def isWordChar (c : Char) : Bool :=
  c.isAlphanum || c == '_' || c == '$' || c == '#' || c == '@'

/-- A name that may stand as a plain word. -/
def isWord (name : String) : Bool :=
  name.toList.all isWordChar && !(name.toList.headD 'a').isDigit

/-- The name in brackets, a closing bracket doubled. -/
def bracketed (name : String) : String := "[" ++ doubled ']' name ++ "]"

/-- The name in double quotes, a double quote doubled. -/
def doubleQuoted (name : String) : String := "\"" ++ doubled '"' name ++ "\""

/-- The name in brackets, a closing bracket and a backslash escaped with a backslash. -/
def escapeBracketed (name : String) : String :=
  .ofList ('[' :: (name.toList.flatMap fun c =>
    if c = '\\' ∨ c = ']' then ['\\', c] else [c]) ++ [']'])

end Identifier

/-- A name written in one of the usual ways. -/
def Quoting.write (quoting : Quoting) (name : String) : Except Fault String :=
  if name.isEmpty then .error (.invalid .emptyIdentifier)
  else
    match quoting with
    | .bracket => .ok (Identifier.bracketed name)
    | .quote => .ok (Identifier.doubleQuoted name)
    | .plain =>
      if Identifier.isWord name then .ok name else .error (.invalid (.unquotableIdentifier name))

end SqlScribe

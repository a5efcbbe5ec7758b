/-!
# Patterns of LIKE

How the characters that a pattern gives a meaning to are kept from having it.
-/

namespace SqlScribe.Like

/-- Puts a backslash before the wildcards and the backslash itself. -/
def escapeBackslash (text : String) : String :=
  .ofList (text.toList.flatMap fun c =>
    if c = '\\' ∨ c = '%' ∨ c = '_' then ['\\', c] else [c])

/-- Makes a class of one character out of each special character. -/
def escapeBrackets (specials : List Char) (text : String) : String :=
  .ofList (text.toList.flatMap fun c => if c ∈ specials then ['[', c, ']'] else [c])

end SqlScribe.Like

import SqlScribe.Json.Source

/-!
# Reading JSON

What a text says, if it holds one document and nothing else.
-/

namespace SqlScribe.Json

/-- Reads the content of the one document that a text holds. What follows the document counts only
when its content is in order. -/
def readAs {ε α : Type} (float : FloatOf) (ofFault : JsonFault → ε) (reader : Source → Except ε α)
    (s : String) : Except ε α := do
  let content ← reader (.ofText float s)
  let rest ← (afterValue s.toList).mapError ofFault
  if (skipBlanks rest).isEmpty then return content else throw (ofFault .trailingCharacters)

/-- Reads a whole text as one document. -/
def read (float : FloatOf) (s : String) : Except JsonFault Json := readAs float id Source.document s

end SqlScribe.Json

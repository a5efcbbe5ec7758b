/-!
# Pieces of a text

Cutting a text at a separator, putting pieces together, looking for one text inside another, and
measuring.
-/

namespace SqlScribe.Text

/-- Cuts at every occurrence of a separator; there is always at least one piece. -/
def splitChars (sep : Char) : List Char → List (List Char)
  | [] => [[]]
  | c :: rest =>
    if c = sep then [] :: splitChars sep rest
    else
      match splitChars sep rest with
      | [] => [[c]]
      | piece :: pieces => (c :: piece) :: pieces

/-- The pieces of a text between the occurrences of a separator. -/
def splitAt (sep : Char) (s : String) : List String := (splitChars sep s.toList).map .ofList

/-- The pieces with a separator between neighbours. -/
def join (sep : String) (pieces : List String) : String := sep.intercalate pieces

/-- One text begins with the other. -/
def beginsWith (needle s : String) : Bool := needle.toList.isPrefixOf s.toList

/-- One list of characters stands somewhere inside the other. -/
def occursIn (needle : List Char) : List Char → Bool
  | [] => needle.isEmpty
  | c :: rest => needle.isPrefixOf (c :: rest) || occursIn needle rest

/-- One text stands somewhere inside the other. -/
def containsText (needle s : String) : Bool := occursIn needle.toList s.toList

/-- Writes every occurrence of a character twice. -/
def doubled (mark : Char) (s : String) : String :=
  .ofList (s.toList.flatMap fun c => if c = mark then [mark, mark] else [c])

/-- The text filled up with spaces on the right to a least number of characters. -/
def padRight (width : Nat) (s : String) : String :=
  s ++ .ofList (List.replicate (width - s.length) ' ')

/-- The number of bytes that the characters take in UTF-8. -/
def byteLength (cs : List Char) : Nat := (String.ofList cs).utf8ByteSize

theorem splitChars_ne_nil (sep : Char) (cs : List Char) : splitChars sep cs ≠ [] := by
  cases cs with
  | nil => simp [splitChars]
  | cons c rest =>
    simp only [splitChars]
    split
    · simp
    · split <;> simp

end SqlScribe.Text

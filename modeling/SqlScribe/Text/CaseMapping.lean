import SqlScribe.Text.CaseTable

/-!
# Upper and lower case

The full case mappings of Unicode: a character may become several, and a capital sigma at the end
of a word becomes the final form.
-/

namespace SqlScribe.Text

private def shiftBy (ranges : Array CaseRange) (c : Char) : Char :=
  match ranges.find? (·.covers c.toNat) with
  | some range => .ofNat (c.toNat + range.shift).toNat
  | none => c

/-- The upper case of one character. -/
def upperOf (c : Char) : List Char :=
  if c.toNat < 0x80 then [c.toUpper]
  else
    match upperExpansions.find? (·.1 == c.toNat) with
    | some (_, expansion) => expansion.map .ofNat
    | none => [shiftBy upperRanges c]

/-- The lower case of one character, wherever it stands. -/
def lowerOf (c : Char) : List Char :=
  if c.toNat < 0x80 then [c.toLower]
  else if c.toNat == 0x130 then ['i', .ofNat 0x307]
  else [shiftBy lowerRanges c]

/-- The nearest character that a capital sigma does not look past has a case. -/
def meetsCased (cs : List Char) : Bool :=
  match cs.dropWhile fun c => inRanges caseIgnorableRanges c.toNat with
  | [] => false
  | c :: _ => inRanges casedRanges c.toNat

/-- Lower case of the rest of a text; `before` is what precedes it, nearest first. -/
def lowerFrom (before : List Char) : List Char → List Char
  | [] => []
  | c :: rest =>
    let image :=
      if c.toNat == 0x3A3 then
        if meetsCased before && !meetsCased rest then [.ofNat 0x3C2] else [.ofNat 0x3C3]
      else lowerOf c
    image ++ lowerFrom (c :: before) rest

/-- The text in upper case. -/
def upperCase (s : String) : String := .ofList (s.toList.flatMap upperOf)

/-- The text in lower case. -/
def lowerCase (s : String) : String := .ofList (lowerFrom [] s.toList)

end SqlScribe.Text

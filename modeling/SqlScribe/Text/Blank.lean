/-!
# Blank characters

Which characters count as blank, and how blanks are taken off the ends of a text.
-/

namespace SqlScribe.Text

/-- Unicode's White_Space property. -/
def isBlank (c : Char) : Bool :=
  let n := c.toNat
  (0x09 ≤ n && n ≤ 0x0D) || n == 0x20 || n == 0x85 || n == 0xA0 || n == 0x1680 ||
    (0x2000 ≤ n && n ≤ 0x200A) || n == 0x2028 || n == 0x2029 || n == 0x202F || n == 0x205F ||
    n == 0x3000

/-- A list without the leading and trailing elements of a class. -/
def strip {α : Type} (drops : α → Bool) (xs : List α) : List α :=
  ((xs.dropWhile drops).reverse.dropWhile drops).reverse

/-- A text without the blanks at its ends. -/
def trim (s : String) : String := .ofList (strip isBlank s.toList)

/-- Nothing but blanks, or nothing at all. -/
def isAllBlank (s : String) : Bool := s.toList.all isBlank

/-- What is left of an all-blank list is nothing. -/
theorem strip_eq_nil {α : Type} {drops : α → Bool} {xs : List α} (h : xs.all drops) :
    strip drops xs = [] := by
  have nothing : xs.dropWhile drops = [] := by induction xs <;> simp_all
  simp [strip, nothing]

/-- An all-blank text trims to the empty one. -/
theorem trim_eq_empty {s : String} (h : isAllBlank s) : trim s = "" := by
  simp [trim, strip_eq_nil h]

end SqlScribe.Text

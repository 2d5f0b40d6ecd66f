import Eligibility.Text.RangeTable

/-!
# Blank characters and trimming

Twenty-nine characters are blank: the Unicode white space and the four information
separators, which some readers do not take for blanks.
-/

namespace Eligibility.Text

/-- White space and the information separators. -/
def blankTable : RangeTable :=
  [(0x9, 0xD), (0x1C, 0x20), (0x85, 0x85), (0xA0, 0xA0), (0x1680, 0x1680), (0x2000, 0x200A),
   (0x2028, 0x2029), (0x202F, 0x202F), (0x205F, 0x205F), (0x3000, 0x3000)]

/-- Blank characters. -/
def isBlank (c : Char) : Bool := inTable blankTable c

/-- Blank characters that are no information separators. -/
def isWhiteSpace (c : Char) : Bool := isBlank c && !(0x1C ≤ c.toNat && c.toNat < 0x20)

/-- The characters without those of a class at either end. -/
def trimBy (outer : Char → Bool) (cs : List Char) : List Char :=
  ((cs.dropWhile outer).reverse.dropWhile outer).reverse

/-- The characters without the blanks at either end. -/
def trimChars (cs : List Char) : List Char := trimBy isBlank cs

/-- The text without the blanks at either end. -/
def trim (s : String) : String := String.ofList (trimChars s.toList)

end Eligibility.Text

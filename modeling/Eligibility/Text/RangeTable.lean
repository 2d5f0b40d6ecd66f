/-!
# Tables of code point ranges

A character class is a list of closed ranges of code points, ascending and apart. The
tables of this folder state properties of the Unicode character database, of version 14.0
unless they name another one.
-/

namespace Eligibility.Text

/-- Closed ranges of code points, ascending and apart. -/
abbrev RangeTable := List (Nat × Nat)

namespace RangeTable

/-- Some range holds the code point. The search stops at the first range that begins
above it, because the ranges ascend. -/
def covers : RangeTable → Nat → Bool
  | [], _ => false
  | (first, last) :: rest, n =>
      if n < first then false else if n ≤ last then true else covers rest n

end RangeTable

/-- The character's code point is in the table. -/
def inTable (table : RangeTable) (c : Char) : Bool := table.covers c.toNat

end Eligibility.Text

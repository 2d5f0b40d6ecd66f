/-!
# Doubles

A double is not a number, an infinity, or a sign with a finite magnitude. The finite
magnitudes are numbered in ascending order: the number of a magnitude is its *rank*.
Every finite magnitude is a whole multiple of `2 ^ -1074`, so a comparison of two doubles,
or of a double and an integer, is one of integers and loses nothing.
-/

namespace Eligibility.Number

/-- A block of ranks shares one spacing: `2 ^ 52` of them. -/
def blockSize : Nat := Nat.pow 2 52

/-- The number of finite magnitudes. -/
def magnitudeCount : Nat := 2047 * blockSize

/-- The number of units in one: the unit is the least positive double, `2 ^ -1074`. -/
def unitsPerOne : Nat := Nat.pow 2 1074

/-- Doubles, each in exactly one form. -/
inductive Binary64 where
  | nan
  | infinity (negative : Bool)
  | finite (negative : Bool) (rank : Fin magnitudeCount)
deriving DecidableEq, Repr

/-- The magnitude of a rank, counted in units. The first two blocks are one unit apart,
and each later block is spaced twice as wide as the one before. -/
def unitsOfRank (rank : Nat) : Nat :=
  let doublings := rank / blockSize - 1
  (rank - doublings * blockSize) * Nat.pow 2 doublings

/-- A quotient rounded to the nearest whole number, a half to the even neighbour. -/
def roundHalfEven (num den : Nat) : Nat :=
  let quotient := num / den
  let twice := 2 * (num % den)
  if twice < den then quotient
  else if den < twice then quotient + 1
  else if quotient % 2 = 0 then quotient
  else quotient + 1

/-- The rank of the magnitude nearest to a quotient, as if ranks had no end. A quotient
that rounds up into the next block carries into the number of the block by itself. -/
def nearestRank (num den : Nat) : Nat :=
  let units := num * unitsPerOne
  let doublings := Nat.log2 (units / den) - 52
  doublings * blockSize + roundHalfEven units (den * Nat.pow 2 doublings)

namespace Binary64

/-- The double of a rank. Ranks past the last magnitude are infinite. -/
def ofRank (negative : Bool) (rank : Nat) : Binary64 :=
  if h : rank < magnitudeCount then .finite negative ⟨rank, h⟩ else .infinity negative

/-- The double nearest to a quotient of whole numbers. -/
def ofRatio (negative : Bool) (num den : Nat) : Binary64 :=
  ofRank negative (nearestRank num den)

/-- Neither an infinity nor not-a-number. -/
def isFinite : Binary64 → Bool
  | .finite .. => true
  | _ => false

end Binary64

end Eligibility.Number

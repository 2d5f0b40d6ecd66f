import Eligibility.Number.Decimal

/-!
# How numbers are written

Doubles are written with the fewest digits that identify them. In general they stand
positionally while the point is near the digits, and otherwise in scientific notation with
a signed exponent of at least two digits. The literals of a rule are always positional,
because a rule has no other notation for numbers.
-/

namespace Eligibility.Number

namespace Decimal

/-- The digits with a point and at least one digit on each side of it. -/
def positional (d : Decimal) : List Char :=
  let ds := digitChars d.coefficient
  let point := (ds.length : Int) + d.exponent
  if 0 ≤ d.exponent then ds ++ List.replicate d.exponent.toNat '0' ++ ['.', '0']
  else if 0 < point then ds.take point.toNat ++ '.' :: ds.drop point.toNat
  else '0' :: '.' :: (List.replicate (-point).toNat '0' ++ ds)

/-- One digit before the point, the others behind it, and the power of ten. -/
def scientific (d : Decimal) : List Char :=
  let ds := digitChars d.coefficient
  let power := (ds.length : Int) + d.exponent - 1
  let powerDigits := digitChars power.natAbs
  let fraction := match ds.drop 1 with
    | [] => []
    | rest => '.' :: rest
  ds.take 1 ++ fraction ++ 'e' :: (if power < 0 then '-' else '+') ::
    (List.replicate (2 - powerDigits.length) '0' ++ powerDigits)

/-- Positional from `10 ^ -4` up to `10 ^ 16`, and scientific outside. -/
def general (d : Decimal) : List Char :=
  let point := ((digitChars d.coefficient).length : Int) + d.exponent
  if -4 < point ∧ point ≤ 16 then d.positional else d.scientific

end Decimal

namespace Binary64

/-- A minus in front of what is negative. -/
def signed (negative : Bool) (cs : List Char) : List Char :=
  if negative then '-' :: cs else cs

/-- The text of a double in messages and documents. -/
def text : Binary64 → String
  | .nan => "nan"
  | .infinity negative => String.ofList (signed negative "inf".toList)
  | .finite negative rank => String.ofList (signed negative (shortest rank).general)

/-- The characters of a double in a rule. -/
def literalChars : Binary64 → List Char
  | .nan => "NaN.0".toList
  | .infinity negative => signed negative "Infinity.0".toList
  | .finite negative rank => signed negative (shortest rank).positional

end Binary64

/-- The text of an integer. -/
def integerText (n : Int) : String := String.ofList (integerChars n)

end Eligibility.Number

/-!
# Decimal digits of whole numbers

The digits of a number, most significant first, and the number of a list of digits.
-/

namespace Eligibility.Number

/-- The digits of `n` in front of the digits already written. -/
def digitsOnto (n : Nat) (written : List Nat) : List Nat :=
  if n < 10 then n :: written else digitsOnto (n / 10) (n % 10 :: written)
termination_by n
decreasing_by omega

/-- The decimal digits of a number, most significant first. -/
def digits (n : Nat) : List Nat := digitsOnto n []

/-- The number that a list of digits denotes, most significant first. -/
def ofDigits (ds : List Nat) : Nat := ds.foldl (fun n d => 10 * n + d) 0

/-- The character of a digit below ten. -/
def digitChar (d : Nat) : Char := Char.ofNat (48 + d)

/-- A number in decimal. -/
def digitChars (n : Nat) : List Char := (digits n).map digitChar

/-- An integer in decimal, with a sign only when it is negative. -/
def integerChars : Int → List Char
  | .ofNat n => digitChars n
  | .negSucc n => '-' :: digitChars (n + 1)

end Eligibility.Number

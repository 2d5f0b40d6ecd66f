import Eligibility.Number.Digits

/-!
# Limits of conversion

An integer is read from a text, and written as one, only if it has few enough digits. Zeros in
front of an integer that is read count among its digits, and its sign does not. Doubles are
read from texts of any length.
-/

namespace Eligibility.Number

/-- The most digits that an integer may have in a text. -/
def maxDigits : Nat := 4300

/-- Why a text is not read as a number, or an integer is not written as a text. -/
inductive ConversionError where
  /-- The text is not that of a number. -/
  | notNumber (text : String)
  /-- The text is not that of an integer. -/
  | notInteger (text : String)
  /-- The text is that of an integer with too many digits. -/
  | tooManyDigits (count : Nat)
  /-- The integer that is to be written has too many digits. -/
  | tooLong
deriving DecidableEq, Repr

/-- An integer has few enough digits to be written. -/
def isWritable (n : Int) : Bool := (digits n.natAbs).length ≤ maxDigits

end Eligibility.Number

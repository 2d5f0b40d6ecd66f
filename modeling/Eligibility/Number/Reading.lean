import Eligibility.Number.Basic
import Eligibility.Number.Conversion
import Eligibility.Number.Decimal
import Eligibility.Text.Blank
import Eligibility.Text.Digit

/-!
# Numbers in texts

Four readers share the digits of every script. `isNumericText` says whether a text reads as
a number for comparison: digits with an optional sign, fraction and exponent. `read` reads a
number; it also takes a plus sign, underscores between digits and the names of the infinities
and of not-a-number. `ofText?` is the number that the text denotes, and `read` gives it unless
it is an integer with too many digits. `readInteger` and `plainDoubleOf?` read an integer or a
double where nothing else will do, with no more than white space around it.
-/

namespace Eligibility.Number

open Eligibility.Text

/-- The digits at the start of a text, and what follows them. -/
def takeDigits : List Char → List Nat × List Char
  | [] => ([], [])
  | c :: cs =>
      match digitValue? c with
      | some d => let (ds, rest) := takeDigits cs; (d :: ds, rest)
      | none => ([], c :: cs)

/-- The text begins with a digit. -/
def startsWithDigit : List Char → Bool
  | [] => false
  | c :: _ => isDigit c

/-- A text without the sign in front of it, and whether the sign was a minus. -/
def takeSign : List Char → Bool × List Char
  | '-' :: cs => (true, cs)
  | '+' :: cs => (false, cs)
  | cs => (false, cs)

/-- The exponent that makes up the whole of a text: empty, or a mark, an optional sign and
at least one digit. -/
def exponentOf? : List Char → Option Int
  | [] => some 0
  | c :: cs =>
      if c = 'e' ∨ c = 'E' then
        let (negative, body) := takeSign cs
        match takeDigits body with
        | ([], _) => none
        | (ds, []) => some (if negative then -(ofDigits ds : Int) else ofDigits ds)
        | _ => none
      else none

/-- The decimal that makes up the whole of an unsigned text: digits with an optional
point among or around them, at least one digit, and an optional exponent. -/
def decimalOf? (cs : List Char) : Option Decimal :=
  let (whole, rest) := takeDigits cs
  let (fraction, tail) := match rest with
    | '.' :: after => takeDigits after
    | _ => ([], rest)
  if whole.isEmpty && fraction.isEmpty then none
  else (exponentOf? tail).map fun power =>
    ⟨ofDigits (whole ++ fraction), power - fraction.length⟩

/-- The text without a minus in front of it. -/
def dropMinus : List Char → List Char
  | '-' :: cs => cs
  | cs => cs

/-- The text reads as a number once the blanks around it are dropped: an optional minus
and a decimal. -/
def isNumericText (s : String) : Bool :=
  (decimalOf? (dropMinus (trimChars s.toList))).isSome

/-- The integer that makes up the whole of a text: an optional minus and digits. -/
def integerOf? (cs : List Char) : Option Int :=
  match takeDigits (dropMinus cs) with
  | ([], _) => none
  | (ds, []) => some (if cs.head? = some '-' then -(ofDigits ds : Int) else ofDigits ds)
  | _ => none

/-- A text without its underscores, each of which must stand between two digits.
`afterDigit` tells whether the character before was a digit. -/
def dropUnderscores? (afterDigit : Bool) : List Char → Option (List Char)
  | [] => some []
  | c :: cs =>
      if c = '_' then
        if afterDigit && startsWithDigit cs then dropUnderscores? false cs else none
      else (dropUnderscores? (isDigit c) cs).map (c :: ·)

/-- The double that makes up the whole of a text. -/
def doubleOf? (cs : List Char) : Option Binary64 := do
  let plain ← dropUnderscores? false cs
  let (negative, body) := takeSign plain
  let name := body.map Char.toLower
  if name = "inf".toList ∨ name = "infinity".toList then some (.infinity negative)
  else if name = "nan".toList then some .nan
  else (decimalOf? body).map (Decimal.toBinary64 negative)

/-- The number that a text denotes once the blanks around it are dropped: an integer when
it is integral in form, and a double otherwise. -/
def ofText? (s : String) : Option Number :=
  let cs := trimChars s.toList
  match integerOf? cs with
  | some n => some (.int n)
  | none => (doubleOf? cs).map .double

/-- The number of digits of a text that is integral in form, if it has too many of them. -/
def overlong? (cs : List Char) : Option Nat :=
  let count := (dropMinus cs).length
  if maxDigits < count ∧ (integerOf? cs).isSome = true then some count else none

/-- Reads the number that a text denotes. -/
def read (s : String) : Except ConversionError Number :=
  match overlong? (trimChars s.toList), ofText? s with
  | some count, _ => .error (.tooManyDigits count)
  | none, some n => .ok n
  | none, none => .error (.notNumber (trim s))

/-- The sign and the digits that a text consists of once the white space around it is dropped:
an optional sign, and digits, with underscores between them or not. -/
def signedDigits? (s : String) : Option (Bool × List Nat) := do
  let (negative, body) := takeSign (← dropUnderscores? false (trimBy isWhiteSpace s.toList))
  match takeDigits body with
  | ([], _) => none
  | (ds, []) => some (negative, ds)
  | _ => none

/-- Reads the integer that a text denotes, and nothing else. -/
def readInteger (s : String) : Except ConversionError Int :=
  match signedDigits? s with
  | none => .error (.notInteger s)
  | some (negative, ds) =>
      if maxDigits < ds.length then .error (.tooManyDigits ds.length)
      else .ok (if negative then -(ofDigits ds : Int) else ofDigits ds)

/-- The double that a text denotes once the white space around it is dropped. -/
def plainDoubleOf? (s : String) : Option Binary64 := doubleOf? (trimBy isWhiteSpace s.toList)

end Eligibility.Number

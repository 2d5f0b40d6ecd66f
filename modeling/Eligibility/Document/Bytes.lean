import Eligibility.Document.Reader
import Eligibility.Text.Utf8

/-!
# Documents as bytes

Documents travel as bytes, in units of one, two or four bytes to a unit. A document begins
with a plain character, so the zeros among its first bytes show how wide the units are and in
which order their bytes stand.
-/

namespace Eligibility.Document

/-- How bytes make up the characters of a document. -/
inductive ByteForm where
  | utf8
  | utf16 (bigEndian : Bool)
  | utf32 (bigEndian : Bool)
deriving DecidableEq, Repr

/-- The form that the first bytes show. Two bytes alone are one wide unit if one of them is
zero. -/
def ByteForm.ofBytes : List Nat → ByteForm
  | [a, b] => if a = 0 then .utf16 true else if b = 0 then .utf16 false else .utf8
  | a :: b :: c :: d :: _ =>
      if a = 0 then if b = 0 then .utf32 true else .utf16 true
      else if b = 0 then if c = 0 ∧ d = 0 then .utf32 false else .utf16 false
      else .utf8
  | _ => .utf8

/-- The number that two bytes make. -/
def pairValue (bigEndian : Bool) (a b : Nat) : Nat := if bigEndian then 256 * a + b else 256 * b + a

/-- The units of two bytes each, unless a byte is left over. -/
def units16? (bigEndian : Bool) : List Nat → Option (List Nat)
  | [] => some []
  | a :: b :: rest => (units16? bigEndian rest).map (pairValue bigEndian a b :: ·)
  | _ => none

/-- The units of four bytes each, unless bytes are left over or a unit is beyond the last
code point. -/
def units32? (bigEndian : Bool) : List Nat → Option (List Nat)
  | [] => some []
  | a :: b :: c :: d :: rest =>
      let first := pairValue bigEndian a b
      let second := pairValue bigEndian c d
      let n := if bigEndian then 65536 * first + second else 65536 * second + first
      if n < 0x110000 then (units32? bigEndian rest).map (n :: ·) else none
  | _ => none

/-- A text without the mark of its byte order. -/
def dropByteOrderMark : List Char → List Char
  | '\uFEFF' :: cs => cs
  | cs => cs

/-- The text that the bytes of a body make up. The body is given by the characters that the
bytes have as UTF-8. -/
def textOfBody? (body : String) : Option String :=
  let bytes := Text.Utf8.bytes body.toList
  match ByteForm.ofBytes bytes with
  | .utf8 => some (String.ofList (dropByteOrderMark body.toList))
  | .utf16 bigEndian => (units16? bigEndian bytes).map fun ns => String.ofList (charsOfUnits ns)
  | .utf32 bigEndian =>
      (units32? bigEndian bytes).map fun ns => String.ofList (ns.map charOfUnit)

end Eligibility.Document

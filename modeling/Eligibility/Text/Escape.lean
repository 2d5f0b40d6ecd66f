import Eligibility.Text.Hex
import Eligibility.Text.Utf8

/-!
# Escapes

In addresses and paths, a percent sign and two hexadecimal digits stand for one byte. The
bytes are those of UTF-8.
-/

namespace Eligibility.Text

/-- The bytes of a text in which escapes stand for bytes. -/
def unescape : List Char → List Nat
  | [] => []
  | '%' :: a :: b :: rest =>
      match hexValue? a, hexValue? b with
      | some high, some low => (16 * high + low) :: unescape rest
      | _, _ => 0x25 :: unescape (a :: b :: rest)
  | c :: rest => Utf8.bytesOfChar c ++ unescape rest

/-- The text that a text with escapes stands for. -/
def unescaped (cs : List Char) : String := String.ofList (Utf8.decode (unescape cs))

/-- A character that is written without an escape: a plain letter or digit, one of four
marks, or one of some more characters. -/
def needsNoEscape (more : List Char) (c : Char) : Bool :=
  c.isAlphanum || "_.-~".toList.contains c || more.contains c

/-- The escape of a byte, with digits in upper case. -/
def escapeByte (b : Nat) : List Char := '%' :: (hexDigits 2 b).map Char.toUpper

/-- A text with escapes where it needs them. -/
def escaped (more : List Char) (s : String) : String :=
  String.ofList <| s.toList.flatMap fun c =>
    if needsNoEscape more c then [c] else (Utf8.bytesOfChar c).flatMap escapeByte

end Eligibility.Text

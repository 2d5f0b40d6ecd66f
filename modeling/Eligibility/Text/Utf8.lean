/-!
# UTF-8

Characters as bytes, and bytes as characters. Every list of bytes can be read: what is not
UTF-8 becomes the replacement character.
-/

namespace Eligibility.Text.Utf8

/-- The bytes of a character. -/
def bytesOfChar (c : Char) : List Nat :=
  let n := c.toNat
  if n < 0x80 then [n]
  else if n < 0x800 then [0xC0 + n / 64, 0x80 + n % 64]
  else if n < 0x10000 then [0xE0 + n / 4096, 0x80 + n / 64 % 64, 0x80 + n % 64]
  else [0xF0 + n / 262144, 0x80 + n / 4096 % 64, 0x80 + n / 64 % 64, 0x80 + n % 64]

/-- A character of which some bytes have been read: the number so far, the bytes to come,
and the range of the next one. -/
structure Partial where
  value : Nat
  missing : Nat
  low : Nat
  high : Nat

/-- What a byte that begins a character leads to. -/
inductive Lead where
  | whole (c : Char)
  | part (p : Partial)
  | invalid

/-- The bytes that begin a character, and the range of the byte behind each. Ranges leave
out overlong forms, surrogates and what lies beyond the last code point. -/
def lead (b : Nat) : Lead :=
  if b < 0x80 then .whole (Char.ofNat b)
  else if b < 0xC2 then .invalid
  else if b < 0xE0 then .part ⟨b - 0xC0, 1, 0x80, 0xBF⟩
  else if b < 0xF0 then
    .part ⟨b - 0xE0, 2, if b = 0xE0 then 0xA0 else 0x80, if b = 0xED then 0x9F else 0xBF⟩
  else if b < 0xF5 then
    .part ⟨b - 0xF0, 3, if b = 0xF0 then 0x90 else 0x80, if b = 0xF4 then 0x8F else 0xBF⟩
  else .invalid

/-- The characters that begin with a byte, given the characters of the rest as a function of
what is pending. -/
def startWith (b : Nat) (continue_ : Option Partial → List Char) : List Char :=
  match lead b with
  | .whole c => c :: continue_ none
  | .part p => continue_ (some p)
  | .invalid => '\uFFFD' :: continue_ none

/-- The characters of a list of bytes, after the part of a character that is pending. A part
that cannot be completed becomes one replacement character. -/
def decodeFrom : Option Partial → List Nat → List Char
  | none, [] => []
  | some _, [] => ['\uFFFD']
  | none, b :: bs => startWith b fun pending => decodeFrom pending bs
  | some p, b :: bs =>
      if p.low ≤ b ∧ b ≤ p.high then
        let value := p.value * 64 + (b - 0x80)
        if p.missing ≤ 1 then Char.ofNat value :: decodeFrom none bs
        else decodeFrom (some ⟨value, p.missing - 1, 0x80, 0xBF⟩) bs
      else '\uFFFD' :: startWith b fun pending => decodeFrom pending bs

/-- The characters of a list of bytes. -/
def decode (bs : List Nat) : List Char := decodeFrom none bs

/-- The bytes of a text. -/
def bytes (cs : List Char) : List Nat := cs.flatMap bytesOfChar

end Eligibility.Text.Utf8

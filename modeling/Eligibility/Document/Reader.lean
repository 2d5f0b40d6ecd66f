import Eligibility.Document.Value
import Eligibility.Number.Reading
import Eligibility.Text.Hex

/-!
# Reading documents

A text is cut into tokens in one pass over its characters, and the tokens are assembled
into a document in one pass over them, with the lists and objects that are still open held
aside. Infinities and not-a-number may be named; everything else is strict. Of two fields
with one name the later value stands in the place of the earlier one. An integer with too many
digits ends the reading where it stands: what follows it is not looked at.
-/

namespace Eligibility.Document

/-- What a document is made of. -/
inductive Token where
  | openList
  | closeList
  | openObject
  | closeObject
  | colon
  | comma
  | scalar (v : Value)
  /-- An integer with too many digits. -/
  | overlong (count : Nat)

/-- Why a text holds no document. -/
inductive ReadError where
  /-- The text is not that of a document. -/
  | malformed
  /-- An integer has too many digits. -/
  | number (e : Number.ConversionError)
deriving DecidableEq, Repr

/-! ## Texts -/

/-- The units of a text between its quotes: the numbers of its characters, where an escape
may also give half of a surrogate pair. -/
def unescape? : List Char → Option (List Nat)
  | [] => some []
  | '\\' :: 'u' :: a :: b :: c :: d :: rest => do
      let n ← Text.ofHexDigits? [a, b, c, d]
      let ns ← unescape? rest
      return n :: ns
  | '\\' :: c :: rest => do
      let n ← match c with
        | '"' => some 0x22
        | '\\' => some 0x5C
        | '/' => some 0x2F
        | 'b' => some 0x08
        | 'f' => some 0x0C
        | 'n' => some 0x0A
        | 'r' => some 0x0D
        | 't' => some 0x09
        | _ => none
      let ns ← unescape? rest
      return n :: ns
  | '\\' :: [] => none
  | c :: rest => (unescape? rest).map (c.toNat :: ·)

/-- The first half of a surrogate pair. -/
def isHighSurrogate (n : Nat) : Bool := 0xD800 ≤ n && n < 0xDC00

/-- The second half of a surrogate pair. -/
def isLowSurrogate (n : Nat) : Bool := 0xDC00 ≤ n && n < 0xE000

/-- The character of a unit that stands alone. Half a pair has no character, and the
replacement character stands for it. -/
def charOfUnit (n : Nat) : Char :=
  if isHighSurrogate n || isLowSurrogate n then '\uFFFD' else Char.ofNat n

/-- The characters of a list of units. -/
def charsOfUnits : List Nat → List Char
  | high :: low :: rest =>
      if isHighSurrogate high && isLowSurrogate low then
        Char.ofNat (0x10000 + 1024 * (high - 0xD800) + (low - 0xDC00)) :: charsOfUnits rest
      else charOfUnit high :: charsOfUnits (low :: rest)
  | [n] => [charOfUnit n]
  | [] => []

/-- The text between two quotes. -/
def text? (cs : List Char) : Option String :=
  (unescape? cs).map fun ns => String.ofList (charsOfUnits ns)

/-! ## Numbers and names -/

/-- The digits zero to nine. -/
def isPlainDigit (c : Char) : Bool := '0' ≤ c && c ≤ '9'

/-- The plain digits at the start of a text, and what follows them. -/
def spanDigits (cs : List Char) : List Char × List Char :=
  (cs.takeWhile isPlainDigit, cs.dropWhile isPlainDigit)

/-- A whole part has digits and no idle zero in front. -/
def isWholePart : List Char → Bool
  | ['0'] => true
  | c :: _ => c != '0'
  | [] => false

/-- What follows a fraction, if there is one; a point needs digits behind it. -/
def afterFraction? : List Char → Option (List Char)
  | '.' :: cs =>
      match spanDigits cs with
      | ([], _) => none
      | (_, rest) => some rest
  | cs => some cs

/-- The end of a number: nothing, or an exponent with digits. -/
def isExponentPart : List Char → Bool
  | [] => true
  | c :: cs =>
      if c = 'e' ∨ c = 'E' then
        match spanDigits (Number.takeSign cs).2 with
        | (_ :: _, []) => true
        | _ => false
      else false

/-- A number of a document: an integer when it has neither fraction nor exponent. -/
def number? (cs : List Char) : Option Number :=
  let (whole, rest) := spanDigits (Number.dropMinus cs)
  if !isWholePart whole then none
  else if rest.isEmpty then (Number.integerOf? cs).map .int
  else match afterFraction? rest with
    | none => none
    | some tail => if isExponentPart tail then (Number.doubleOf? cs).map .double else none

/-- A number has more behind its whole part: a point and a digit, or an exponent. -/
def continuesWhole : List Char → Bool
  | [] => false
  | c :: cs =>
      if c = '.' then (cs.head?.map isPlainDigit).getD false
      else (c == 'e' || c == 'E') &&
        ((Number.takeSign cs).2.head?.map isPlainDigit).getD false

/-- The number of digits of the integer that a word begins with, if it has too many of them. No
integer begins with an idle zero, and the whole part of a double is none. -/
def overlong? (cs : List Char) : Option Nat :=
  let (whole, rest) := spanDigits (Number.dropMinus cs)
  if Number.maxDigits < whole.length ∧ isWholePart whole = true ∧ continuesWhole rest = false then
    some whole.length
  else none

/-- A word that stands without quotes. -/
def bareWord? (cs : List Char) : Option Value :=
  if cs = "null".toList then some .null
  else if cs = "true".toList then some (.bool true)
  else if cs = "false".toList then some (.bool false)
  else if cs = "NaN".toList then some (.number (.double .nan))
  else if cs = "Infinity".toList then some (.number (.double (.infinity false)))
  else if cs = "-Infinity".toList then some (.number (.double (.infinity true)))
  else (number? cs).map .number

/-! ## Tokens -/

/-- What has been read of the token at hand, latest character first. -/
inductive Pending where
  | nothing
  | bare (taken : List Char)
  | quoted (taken : List Char)
  | escaped (taken : List Char)

/-- Blanks between tokens. -/
def isGap (c : Char) : Bool := c == ' ' || c == '\t' || c == '\n' || c == '\r'

/-- The token of a mark. -/
def mark? (c : Char) : Option Token :=
  match c with
  | '[' => some .openList
  | ']' => some .closeList
  | '\x7b' => some .openObject
  | '\x7d' => some .closeObject
  | ':' => some .colon
  | ',' => some .comma
  | _ => none

/-- Between two tokens at a character: the token that it makes at once, and what it leaves
to be read. -/
def start (c : Char) : List Token × Pending :=
  if isGap c then ([], .nothing)
  else if c = '"' then ([], .quoted [])
  else match mark? c with
    | some t => ([t], .nothing)
    | none => ([], .bare [c])

/-- The tokens of a text, after what is pending. An integer with too many digits is the last
one. -/
def tokens? : Pending → List Char → Option (List Token)
  | .nothing, [] => some []
  | .bare taken, [] =>
      match overlong? taken.reverse with
      | some count => some [.overlong count]
      | none => (bareWord? taken.reverse).map fun v => [.scalar v]
  | .quoted _, [] => none
  | .escaped _, [] => none
  | .nothing, c :: cs =>
      let (made, pending) := start c
      (tokens? pending cs).map (made ++ ·)
  | .bare taken, c :: cs =>
      if isGap c || c == '"' || (mark? c).isSome then
        match overlong? taken.reverse with
        | some count => some [.overlong count]
        | none => do
            let v ← bareWord? taken.reverse
            let (made, pending) := start c
            let ts ← tokens? pending cs
            return .scalar v :: made ++ ts
      else tokens? (.bare (c :: taken)) cs
  | .quoted taken, c :: cs =>
      if c = '"' then do
        let s ← text? taken.reverse
        let ts ← tokens? .nothing cs
        return .scalar (.text s) :: ts
      else if c.toNat < 32 then none
      else if c = '\\' then tokens? (.escaped (c :: taken)) cs
      else tokens? (.quoted (c :: taken)) cs
  | .escaped taken, c :: cs => tokens? (.quoted (c :: taken)) cs

/-! ## Assembly -/

/-- A list or object that is still open, latest item first. -/
inductive Frame where
  | inList (done : List Value)
  | inObject (done : Fields) (key : String)

mutual

/-- The document that begins here, inside the open lists and objects. -/
def value? : List Token → List Frame → Except ReadError Value
  | .scalar v :: rest, frames => resume? v rest frames
  | .overlong count :: _, _ => .error (.number (.tooManyDigits count))
  | .openList :: .closeList :: rest, frames => resume? (.list []) rest frames
  | .openList :: rest, frames => value? rest (.inList [] :: frames)
  | .openObject :: .closeObject :: rest, frames => resume? (.object []) rest frames
  | .openObject :: .scalar (.text key) :: .colon :: rest, frames =>
      value? rest (.inObject [] key :: frames)
  | _, _ => .error .malformed

/-- The document when `v` has just been read inside the open lists and objects. -/
def resume? (v : Value) : List Token → List Frame → Except ReadError Value
  | [], [] => .ok v
  | .comma :: rest, .inList done :: frames => value? rest (.inList (v :: done) :: frames)
  | .closeList :: rest, .inList done :: frames =>
      resume? (.list (v :: done).reverse) rest frames
  | .comma :: .scalar (.text next) :: .colon :: rest, .inObject done key :: frames =>
      value? rest (.inObject (done.put key v) next :: frames)
  | .closeObject :: rest, .inObject done key :: frames =>
      resume? (.object (done.put key v)) rest frames
  | _, _ => .error .malformed

end

/-- The document that a text holds. -/
def read? (s : String) : Except ReadError Value :=
  match tokens? .nothing s.toList with
  | none => .error .malformed
  | some ts => value? ts []

end Eligibility.Document

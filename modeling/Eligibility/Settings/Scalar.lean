import Eligibility.Document.Checked
import Eligibility.Document.Reader

/-!
# Integers and truth values of settings

An integer setting is an integer, a double without a fraction, or a text. A text may have a
plus sign, zeros in front, underscores between digits and a fraction of zeros; without these
it must be an integer as a document writes one, and not too long. A truth value is a truth
value, zero or one, or a word.
-/

namespace Eligibility.Settings

/-! ## Integers in texts -/

/-- A digit that is not zero. -/
def isCountingDigit (c : Char) : Bool := '1' ≤ c && c ≤ '9'

/-- What counts of a text of which some zeros and underscores have been passed, `last` being
the one just before: what begins with another digit or with a minus, and what was passed last
where a point or the end follows. -/
def afterZeros? (last : Char) : List Char → Option (List Char)
  | [] => some [last]
  | c :: cs =>
      if c = '0' ∨ c = '_' then afterZeros? c cs
      else if c = '.' then some (last :: c :: cs)
      else if c = '-' ∨ isCountingDigit c then some (c :: cs)
      else none

/-- A text without the zeros in front of it, unless it begins with no digit and no minus. -/
def dropZeros? : List Char → Option (List Char)
  | [] => none
  | c :: cs =>
      if c = '0' then afterZeros? c cs
      else if c = '-' ∨ isCountingDigit c then some (c :: cs)
      else none

/-- A text without the zeros in front of it or behind the minus in front of it. -/
def dropLeadingZeros? : List Char → Option (List Char)
  | '-' :: cs => (dropZeros? cs).map ('-' :: ·)
  | cs => dropZeros? cs

/-- A text without a plus sign in front of it, which no minus may follow. -/
def dropPlus? : List Char → Option (List Char)
  | '+' :: '-' :: _ => none
  | '+' :: cs => some cs
  | cs => some cs

/-- A text without a point and the zeros behind it; nothing else may follow a point. -/
def dropZeroFraction? (cs : List Char) : Option (List Char) :=
  match cs.dropWhile (· != '.') with
  | [] => some cs
  | _ :: zeros =>
      if !zeros.isEmpty && zeros.all (· == '0') then some (cs.takeWhile (· != '.')) else none

/-- Two underscores stand side by side. -/
def hasDoubleUnderscore : List Char → Bool
  | '_' :: '_' :: _ => true
  | _ :: cs => hasDoubleUnderscore cs
  | [] => false

/-- A text without its underscores, none of which may stand at an end or beside another. -/
def dropInnerUnderscores? (cs : List Char) : Option (List Char) :=
  if cs.head? = some '_' ∨ cs.getLast? = some '_' ∨ hasDoubleUnderscore cs = true then none
  else some (cs.filter (· != '_'))

/-- What is left of the text of an integer without the white space around it and all else that
a document does not write. -/
def plainInteger? (s : String) : Option (List Char) := do
  let unsigned ← dropPlus? (Text.trimBy Text.isWhiteSpace s.toList)
  dropInnerUnderscores? (← dropZeroFraction? (← dropLeadingZeros? unsigned))

/-- A text begins with an integer, written as in a document, that is too long. Here its minus
counts as well. -/
def beginsTooLong (cs : List Char) : Bool :=
  let (whole, rest) := Document.spanDigits (Number.dropMinus cs)
  Document.isWholePart whole && Number.maxDigits < cs.length - rest.length

/-- The integer that a text denotes. A text that begins with too long an integer is refused for
that, whatever follows. -/
def integerOfText (s : String) : Except FaultKind Int :=
  match plainInteger? s with
  | some cs =>
      if beginsTooLong s.toList || beginsTooLong cs then .error .integerTooLarge
      else match Document.number? cs with
        | some (.int n) => .ok n
        | _ => .error .integerUnreadable
  | none => .error (if beginsTooLong s.toList then .integerTooLarge else .integerUnreadable)

/-! ## Checks -/

/-- The integer of a double, which must be one of sixty-four bits. -/
def integerOfDouble (x : Number.Binary64) : Checked Int :=
  let given : Value := .number (.double x)
  if !x.isFinite then Checked.fault .numberNotFinite given
  else if x.integer?.isNone then Checked.fault .integerFractional given
  else match x.word? with
    | some n => .ok n
    | none => Checked.fault .integerTooLarge given

/-- An integer setting. -/
def integer : Value → Checked Int
  | .number (.int n) => .ok n
  | .number (.double x) => integerOfDouble x
  | .bool b => .ok (if b then 1 else 0)
  | .text s =>
      match integerOfText s with
      | .ok n => .ok n
      | .error kind => Checked.fault kind (.text s)
  | v => Checked.fault .integerExpected v

/-- An integer setting with a least value. -/
def integerFrom (least : Int) (v : Value) : Checked Int :=
  (integer v).andThen fun n => if least ≤ n then .ok n else Checked.fault .tooSmall v

/-- The words for true. -/
def trueWords : List String := ["1", "true", "t", "yes", "y", "on"]

/-- The words for false. -/
def falseWords : List String := ["0", "false", "f", "no", "n", "off"]

/-- The integer of a number that has sixty-four bits. -/
def wordOf? : Number → Option Int
  | .int n => if Number.fitsWord n then some n else none
  | .double x => x.word?

/-- A truth value of a setting. -/
def truth : Value → Checked Bool
  | .bool b => .ok b
  | .text s =>
      let word := String.ofList (s.toList.map Char.toLower)
      if trueWords.contains word then .ok true
      else if falseWords.contains word then .ok false
      else Checked.fault .truthUnreadable (.text s)
  | .number n =>
      match wordOf? n with
      | some m =>
          if m = 1 then .ok true
          else if m = 0 then .ok false
          else Checked.fault .truthUnreadable (.number n)
      | none => Checked.fault .truthExpected (.number n)
  | v => Checked.fault .truthExpected v

end Eligibility.Settings

import Eligibility.Document.Value
import Eligibility.Number.Conversion
import Eligibility.Number.Layout
import Eligibility.Text.Hex
import Eligibility.Text.Printable

/-!
# Values in messages

Messages show a value in one line: texts in quotes with everything unprintable escaped,
lists in brackets and objects in braces. The values that messages show come from documents that
were read, so their integers have few enough digits to be written.
-/

namespace Eligibility

namespace Text

/-- The quote around a text: a single one, unless the text holds a single quote and no
double one. -/
def quoteMark (cs : List Char) : Char :=
  if cs.contains '\'' && !cs.contains '"' then '"' else '\''

/-- The number of a character, with as many digits as it needs. -/
def numberedChar (c : Char) : List Char :=
  if c.toNat < 256 then '\\' :: 'x' :: hexDigits 2 c.toNat
  else if c.toNat < 65536 then '\\' :: 'u' :: hexDigits 4 c.toNat
  else '\\' :: 'U' :: hexDigits 8 c.toNat

/-- A character inside quotes. -/
def displayChar (mark c : Char) : List Char :=
  if c = mark ∨ c = '\\' then ['\\', c]
  else if c = '\n' then ['\\', 'n']
  else if c = '\r' then ['\\', 'r']
  else if c = '\t' then ['\\', 't']
  else if isPrintable c then [c]
  else numberedChar c

/-- A text in quotes. -/
def display (s : String) : String :=
  let cs := s.toList
  let mark := quoteMark cs
  String.ofList (mark :: (cs.flatMap (displayChar mark) ++ [mark]))

end Text

/-- The message of the error. -/
def Number.ConversionError.message : Number.ConversionError → String
  | .notNumber text => s!"could not convert string to float: {Text.display text}"
  | .notInteger text =>
      "invalid literal for int() with base 10: " ++
        String.ofList ((Text.display text).toList.take 200)
  | .tooManyDigits count =>
      s!"Exceeds the limit ({Number.maxDigits} digits) for integer string conversion: " ++
        s!"value has {count} digits; use sys.set_int_max_str_digits() to increase the limit"
  | .tooLong =>
      s!"Exceeds the limit ({Number.maxDigits} digits) for integer string conversion; " ++
        "use sys.set_int_max_str_digits() to increase the limit"

/-- The text of a number: an integer in decimal, a double with the digits that identify it. -/
def Number.text : Number → String
  | .int n => integerText n
  | .double x => x.text

namespace Value

mutual

/-- A value in one line. -/
def display : Value → String
  | .null => "None"
  | .bool true => "True"
  | .bool false => "False"
  | .number n => n.text
  | .text s => Text.display s
  | .list items => "[" ++ ", ".intercalate (displayItems items) ++ "]"
  | .object fields => "\x7b" ++ ", ".intercalate (displayFields fields) ++ "\x7d"

/-- Each item in one line. -/
def displayItems : List Value → List String
  | [] => []
  | v :: vs => display v :: displayItems vs

/-- Each field in one line, its name first. -/
def displayFields : List (String × Value) → List String
  | [] => []
  | (k, v) :: fs => (Text.display k ++ ": " ++ display v) :: displayFields fs

end

end Value

end Eligibility

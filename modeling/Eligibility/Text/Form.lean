import Eligibility.Text.Escape

/-!
# Forms

A form is a text of fields between ampersands. The name of a field ends at the first equals
sign, and its value follows. Spaces are written as plus signs, and other characters may be
escapes.
-/

namespace Eligibility.Text

/-- The text that a name or a value in a form stands for. -/
def unescapedField (cs : List Char) : String :=
  unescaped (cs.map fun c => if c = '+' then ' ' else c)

/-- The name and the value of a field. A field without an equals sign has an empty value. -/
def fieldOf (cs : List Char) : String × String :=
  (unescapedField (cs.takeWhile (· != '=')), unescapedField ((cs.dropWhile (· != '=')).drop 1))

/-- The fields of a form, in order. -/
def formFields (cs : List Char) : List (String × String) :=
  (((String.ofList cs).splitOn "&").filter (!·.isEmpty)).map fun field => fieldOf field.toList

/-- A name or a value as it is written in a form. -/
def escapedField (s : String) : String :=
  String.ofList ((escaped [' '] s).toList.map fun c => if c = ' ' then '+' else c)

/-- The form of some fields. -/
def form (fields : List (String × String)) : String :=
  "&".intercalate (fields.map fun (name, value) => s!"{escapedField name}={escapedField value}")

end Eligibility.Text

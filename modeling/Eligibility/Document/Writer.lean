import Eligibility.Document.Display

/-!
# Written documents

A document is written in one line of ASCII, with a blank after each comma and colon. The
writer puts the text of a value in front of a text that is already written, so that the
time it takes does not depend on how deep the document is.
-/

namespace Eligibility.Value

/-- The escape of a UTF-16 unit. -/
def unitEscape (n : Nat) : List Char := '\\' :: 'u' :: Text.hexDigits 4 n

/-- A character of a written text. Everything outside printable ASCII is escaped, and a
character beyond the first plane by its two surrogates. -/
def writeChar (c : Char) : List Char :=
  if c = '"' then ['\\', '"']
  else if c = '\\' then ['\\', '\\']
  else if c = '\n' then ['\\', 'n']
  else if c = '\r' then ['\\', 'r']
  else if c = '\t' then ['\\', 't']
  else if c = '\x0c' then ['\\', 'f']
  else if c = '\x08' then ['\\', 'b']
  else
    let n := c.toNat
    if 32 ≤ n ∧ n < 127 then [c]
    else if n < 65536 then unitEscape n
    else unitEscape (0xD800 + (n - 65536) / 1024) ++ unitEscape (0xDC00 + (n - 65536) % 1024)

/-- A text in quotes, in front of a text. -/
def writeTextOnto (s : String) (rest : List Char) : List Char :=
  '"' :: s.toList.foldr (fun c cs => writeChar c ++ cs) ('"' :: rest)

/-- The name of a double that has no digits, or its digits. -/
def writeDouble : Number.Binary64 → List Char
  | .nan => "NaN".toList
  | .infinity true => "-Infinity".toList
  | .infinity false => "Infinity".toList
  | x => x.text.toList

mutual

/-- A document in front of a text. -/
def writeOnto : Value → List Char → List Char
  | .null, rest => "null".toList ++ rest
  | .bool true, rest => "true".toList ++ rest
  | .bool false, rest => "false".toList ++ rest
  | .number (.int n), rest => Number.integerChars n ++ rest
  | .number (.double x), rest => writeDouble x ++ rest
  | .text s, rest => writeTextOnto s rest
  | .list [], rest => '[' :: ']' :: rest
  | .list (v :: vs), rest => '[' :: writeOnto v (writeItemsOnto vs rest)
  | .object [], rest => '\x7b' :: '\x7d' :: rest
  | .object ((k, v) :: fs), rest =>
      '\x7b' :: writeTextOnto k (':' :: ' ' :: writeOnto v (writeFieldsOnto fs rest))

/-- The items after the first one and the bracket that closes the list. -/
def writeItemsOnto : List Value → List Char → List Char
  | [], rest => ']' :: rest
  | v :: vs, rest => ',' :: ' ' :: writeOnto v (writeItemsOnto vs rest)

/-- The fields after the first one and the brace that closes the object. -/
def writeFieldsOnto : List (String × Value) → List Char → List Char
  | [], rest => '\x7d' :: rest
  | (k, v) :: fs, rest =>
      ',' :: ' ' :: writeTextOnto k (':' :: ' ' :: writeOnto v (writeFieldsOnto fs rest))

end

/-- The written form of a document. -/
def write (v : Value) : String := String.ofList (writeOnto v [])

end Eligibility.Value

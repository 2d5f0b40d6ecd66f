import Eligibility.Document.Display
import Eligibility.Text.Lowercase

/-!
# Attributes

The catalog describes the attributes that rules may refer to: the name, the type of data
and, if they are limited, the allowed values.
-/

namespace Eligibility

/-- The types of data an attribute may have. -/
inductive DataType where
  | string
  | number
  | boolean
deriving DecidableEq, Repr

namespace DataType

/-- The word for a type of data. -/
def word : DataType → String
  | .string => "String"
  | .number => "Number"
  | .boolean => "Boolean"

/-- The type of data that a value names. -/
def ofValue? : Value → Option DataType
  | .text s => [string, number, boolean].find? fun type => type.word == s
  | _ => none

/-- A text stands somewhere in another one. -/
def occursIn (part : List Char) : List Char → Bool
  | [] => part.isEmpty
  | c :: cs => part.isPrefixOf (c :: cs) || occursIn part cs

/-- The type guessed from a name alone: a number if some hint occurs in the lower-case form
of the name. -/
def guess (hints : List String) (name : String) : DataType :=
  let lowered := (Text.lower name).toList
  if hints.any fun hint => occursIn hint.toList lowered then .number else .string

/-- The hints that are used unless others are given. -/
def defaultHints : List String := ["age", "salary"]

end DataType

/-- An attribute of the catalog. -/
structure Attribute where
  name : String
  dataType : DataType
  allowed : Option (List Value)

/-- Why something cannot be an entry of the catalog or of the rule book. -/
inductive EntryError where
  | attributeNameRequired
  | unknownDataType (given : Value)
  | ruleNameRequired
  | ruleTextRequired

/-- The message of the error. -/
def EntryError.message : EntryError → String
  | .attributeNameRequired => "Attribute name is required"
  | .unknownDataType given => s!"{given.display} is not a valid DataType"
  | .ruleNameRequired => "Rule name is required"
  | .ruleTextRequired => "Rule string is required"

namespace Value

/-- Null, false, zero, and the empty text, list and object count as not given. -/
def isVoid : Value → Bool
  | .null => true
  | .bool b => !b
  | .number n => n.equal (.int 0)
  | .text s => s.isEmpty
  | .list items => items.isEmpty
  | .object fields => fields.isEmpty

end Value

namespace Attribute

/-- The type of data of an entry with this name; the name is looked at first. -/
def check (name dataType : Value) : Except EntryError DataType :=
  if name.isVoid then .error .attributeNameRequired
  else match DataType.ofValue? dataType with
    | some type => .ok type
    | none => .error (.unknownDataType dataType)

/-- An entry of the catalog. -/
def make? (name : String) (dataType : Value) (allowed : Option (List Value)) :
    Except EntryError Attribute :=
  (check (.text name) dataType).map fun type => ⟨name, type, allowed⟩

end Attribute

end Eligibility

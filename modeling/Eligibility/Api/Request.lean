import Eligibility.Catalog.Attribute
import Eligibility.Document.Bytes
import Eligibility.Document.Checked
import Eligibility.Rule.Formula
import Eligibility.Text.Form
import Eligibility.Text.NameCharacter

/-!
# Requests

A request has a method, a target, headers and a body. The bodies that the endpoints take are
objects whose fields are checked one by one. Most fields have two names, of which the first
one goes before the second.
-/

namespace Eligibility

/-- A request. -/
structure Request where
  method : String
  target : String
  headers : List (String × String)
  body : String

namespace Request

/-- The letters of a text in lower case, as header names and media types compare. -/
def lowerLetters (s : String) : String := String.ofList (s.toList.map Char.toLower)

/-- The value of a header; names compare without regard to case. -/
def header? (r : Request) (name : String) : Option String :=
  (r.headers.find? fun (key, _) => lowerLetters key == lowerLetters name).map (·.2)

/-- The media type of a content type: what stands before its parameters. -/
def mediaType (contentType : String) : List Char :=
  Text.trimChars ((lowerLetters contentType).toList.takeWhile (· != ';'))

/-- The media type is that of a document. -/
def isDocumentType (media : List Char) : Bool :=
  let kind := media.takeWhile (· != '/')
  let subtype := (media.dropWhile (· != '/')).drop 1
  media.count '/' == 1 && kind == "application".toList &&
    (subtype == "json".toList || "+json".toList.isSuffixOf subtype)

/-- The body is to be read as a document, which takes a content type that says so. -/
def hasDocument (r : Request) : Bool :=
  (r.header? "content-type").any fun contentType => isDocumentType (mediaType contentType)

/-- The fields of the query, which follows a question mark in the target. -/
def query (r : Request) : List (String × String) :=
  let target := r.target.toList.takeWhile (· != '#')
  Text.formFields ((target.dropWhile (· != '?')).drop 1)

/-- A text that the query has to hold. If it is given again, the last one counts. -/
def queryText (r : Request) (name : String) : Checked String :=
  match (r.query.filter fun (other, _) => other == name).getLast? with
  | some (_, value) => .ok value
  | none => (Checked.fault .missing .null).inside name

/-- What the body of a request holds. -/
inductive Body where
  | missing
  | opaqueText
  | document (v : Value)

/-- Why a body that is to be a document is none. -/
inductive BodyError where
  /-- The bytes do not make up characters, or an integer has too many digits. -/
  | undecodable
  /-- The characters do not make up a document. -/
  | malformed
deriving DecidableEq, Repr

/-- What the body of the request holds, if it can be read. -/
def content (r : Request) : Except BodyError Body :=
  if r.body.isEmpty then .ok .missing
  else if r.hasDocument then
    match Document.textOfBody? r.body with
    | none => .error .undecodable
    | some text =>
        match Document.read? text with
        | .ok v => .ok (.document v)
        | .error .malformed => .error .malformed
        | .error (.number _) => .error .undecodable
  else .ok .opaqueText

end Request

namespace Request.Body

/-- The body as a value, as faults show it. -/
def toValue : Body → Value
  | .document v => v
  | _ => .null

/-- The checked form of a body that has to be an object. -/
def checked {α : Type} (body : Body) (check : Fields → Checked α) : Checked α :=
  Checked.inside "body" <| match body with
    | .missing => Checked.fault .missing .null
    | .document (.object fields) => check fields
    | other => Checked.fault .bodyExpected other.toValue

end Request.Body

namespace Checked

variable {α : Type}

/-- A field that may have either of two names. -/
def named? (fields : Fields) (name other : String) : Option (String × Value) :=
  match fields.get? name with
  | some v => some (name, v)
  | none => (fields.get? other).map fun v => (other, v)

/-- A field that has to be there. -/
def required (fields : Fields) (name other : String) (check : Value → Checked α) : Checked α :=
  match named? fields name other with
  | some (key, v) => (check v).inside key
  | none => (fault .missing (.object fields)).inside name

/-- A field with a default. -/
def optional (fields : Fields) (name other : String) (default : α) (check : Value → Checked α) :
    Checked α :=
  match named? fields name other with
  | some (key, v) => (check v).inside key
  | none => .ok default

/-- A text of a limited length that is not empty. -/
def sizedText (limit : Option Nat) (v : Value) : Checked String :=
  (text v).andThen fun s =>
    if limit.any (· < s.length) then fault .textTooLong v
    else if s.isEmpty then fault .textTooShort v
    else .ok s

end Checked

/-! ## The bodies of the endpoints -/

/-- The most characters that the name of a rule or attribute may have. -/
def maxNameLength : Nat := 255

/-- A rule to be created. -/
structure CreateRule where
  name : String
  text : String

/-- A rule to be created. -/
def CreateRule.ofFields (fields : Fields) : Checked CreateRule :=
  pure CreateRule.mk
    <*> .required fields "ruleName" "rule_name" (Checked.sizedText (some maxNameLength))
    <*> .required fields "ruleString" "rule_string" (Checked.sizedText none)

/-- Rules to be combined. -/
structure CombineRules where
  names : List String
  operator : Connective

/-- A list of names that is not empty. -/
def CombineRules.nameList (v : Value) : Checked (List String) :=
  (Checked.texts v).andThen fun names =>
    if names.isEmpty then Checked.fault .listTooShort v else .ok names

/-- Rules to be combined, by OR unless something else is asked for. -/
def CombineRules.ofFields (fields : Fields) : Checked CombineRules :=
  pure CombineRules.mk
    <*> .required fields "ruleNames" "rule_names" nameList
    <*> .optional fields "operator" "operator" .or
      (Checked.choice .oneOfExpected Connective.ofKeyword?)

/-- A record that a stored rule is evaluated against. -/
structure EvaluateRule where
  data : Record

/-- A record, empty unless one is given. -/
def EvaluateRule.ofFields (fields : Fields) : Checked EvaluateRule :=
  pure EvaluateRule.mk <*> .optional fields "data" "data" [] Checked.fields

/-- A document that is decoded and evaluated, and the record. -/
structure EvaluateDocument where
  document : Fields
  data : Record

/-- A document and a record, empty unless one is given. -/
def EvaluateDocument.ofFields (fields : Fields) : Checked EvaluateDocument :=
  pure EvaluateDocument.mk
    <*> .required fields "ast" "ast" Checked.fields
    <*> .optional fields "data" "data" [] Checked.fields

namespace Checked

/-- The allowed values of an attribute: a list or null. -/
def allowedValues : Value → Checked (Option (List Value))
  | .null => .ok none
  | v => (items v).andThen fun items => .ok (some items)

/-- The name of an attribute, all of name characters. -/
def attributeName (v : Value) : Checked String :=
  (sizedText (some maxNameLength) v).andThen fun s =>
    if s.toList.all Text.isNameChar then .ok s else fault .textPattern v

/-- The type of data of an attribute. -/
def dataType (v : Value) : Checked DataType :=
  match DataType.ofValue? v with
  | some type => .ok type
  | none => fault .memberExpected v

end Checked

/-- An attribute to be registered. -/
def Attribute.ofFields (fields : Fields) : Checked Attribute :=
  pure Attribute.mk
    <*> .required fields "attributeName" "attribute_name" Checked.attributeName
    <*> .required fields "dataType" "data_type" Checked.dataType
    <*> .optional fields "allowedValues" "allowed_values" none Checked.allowedValues

end Eligibility

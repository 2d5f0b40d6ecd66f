import Eligibility.Api.CrossOrigin
import Eligibility.Api.Template
import Eligibility.Log.Line
import Eligibility.RuleBook.Basic
import Eligibility.Store.Connection

/-!
# Responses

A response has a status and a body. A document with an infinity or not-a-number cannot be
written in a response; only the catalog of attributes shows null in its place, and has a
limit on the levels of a document instead.
-/

namespace Eligibility

/-- The body of a response. -/
inductive Payload where
  | document (v : Value)
  | faults (faults : List Fault)
  | other

/-- A response; its identifier is absent when the request failed unexpectedly. -/
structure Response where
  status : Nat
  payload : Payload
  correlation : Option CorrelationId

namespace Response

/-- A response that is not tied to a request yet. -/
def plain (status : Nat) (payload : Payload) : Response := ⟨status, payload, none⟩

/-- A response with a detail. -/
def detail (status : Nat) (text : String) : Response :=
  plain status (.document (.object [("detail", .text text)]))

end Response

/-- Why a request fails unexpectedly. -/
inductive Failure where
  | rule (e : RuleError)
  /-- The response would hold an infinity or not-a-number. -/
  | notWritable
  /-- The response would have too many levels. -/
  | tooDeep
  /-- The database cannot be reached. -/
  | unreachable (e : AddressError)
  /-- The table that a query looks at has not been created. -/
  | noTable (query : Query)
  /-- The routes of the rules and attributes cannot be made. -/
  | noRoute (e : PathError)
  /-- A header of the response cannot be written. -/
  | noHeader (wide : WideCharacters)

/-- The message of the failure. -/
def Failure.message : Failure → String
  | .rule e => e.message
  | .notWritable => "Out of range float values are not JSON compliant"
  | .tooDeep => "Error serializing to JSON: ValueError: Maximum serialization depth exceeded"
  | .unreachable e => e.message
  | .noTable query => query.missingTable
  | .noRoute e => e.message
  | .noHeader wide => wide.message

namespace Value

mutual

/-- The document with null in the place of infinities and not-a-number. -/
def portable : Value → Value
  | .number n => if n.isFinite then .number n else .null
  | .list items => .list (portableItems items)
  | .object fields => .object (portableFields fields)
  | v => v

/-- The items in their portable form. -/
def portableItems : List Value → List Value
  | [] => []
  | v :: vs => portable v :: portableItems vs

/-- The fields in their portable form. -/
def portableFields : List (String × Value) → List (String × Value)
  | [] => []
  | (k, v) :: fs => (k, portable v) :: portableFields fs

end

mutual

/-- The number of levels of a document. -/
def levels : Value → Nat
  | .list items => itemLevels items + 1
  | .object fields => fieldLevels fields + 1
  | _ => 1

/-- The number of levels of the deepest item. -/
def itemLevels : List Value → Nat
  | [] => 0
  | v :: vs => max (levels v) (itemLevels vs)

/-- The number of levels of the deepest field. -/
def fieldLevels : List (String × Value) → Nat
  | [] => 0
  | (_, v) :: fs => max (levels v) (fieldLevels fs)

end

/-- The most levels that an allowed value may have in a response. -/
def maxLevels : Nat := 255

/-- A rule in a response. -/
def ofRule (name text : String) (f : Formula) : Value :=
  .object [("name", .text name), ("ruleString", .text text), ("ast", f.toValue)]

/-- An attribute in a response. -/
def ofAttribute (a : Attribute) : Value :=
  .object [("attributeName", .text a.name), ("dataType", .text a.dataType.word),
    ("allowedValues", (a.allowed.map .list).getD .null)]

/-- An evaluation in a response. -/
def ofEvaluation (e : Evaluation) : Value :=
  .object [("ruleString", .text e.text), ("outcome", .text e.outcome.word),
    ("result", .text e.outcome.display), ("reason", .ofText? e.outcome.reason?)]

/-- The rules that were not found, in a response. -/
def ofMissing (names : List String) : Value :=
  .object [("detail", .text (RuleError.notFound names).message), ("missing", .texts names)]

end Value

end Eligibility

import Eligibility.Api.Request
import Eligibility.Api.Response

/-!
# Handlers

Each handler answers one kind of request on a session of its own. What it did not commit by
the end is lost.
-/

namespace Eligibility.Handler

/-- A response with a document, if it can be written. -/
def respond (status : Nat) (v : Value) : Action Session Failure Response :=
  if v.allFinite then pure (.plain status (.document v)) else .fail .notWritable

/-- The allowed values of an attribute have few enough levels for a response. -/
def isShallow (a : Attribute) : Bool :=
  (a.allowed.getD []).all fun v => v.levels ≤ Value.maxLevels

/-- A response about attributes, if they can be written. -/
def respondAttributes (status : Nat) (attributes : List Attribute) (v : Value) :
    Action Session Failure Response :=
  if attributes.all isShallow then pure (.plain status (.document v.portable)) else .fail .tooDeep

/-- Creates a rule and commits it. -/
def createRule (policy : Policy) (body : CreateRule) : Action Session Failure Response := do
  match ← (RuleBook.create policy body.name body.text).attempt with
  | .ok formula =>
      .change Session.commit
      respond 201 (.ofRule body.name body.text formula)
  | .error (.duplicate name) => return .detail 409 (RuleError.duplicate name).message
  | .error (.syntaxError e) => reject e.message
  | .error (.unknownAttribute name) => reject (RuleError.unknownAttribute name).message
  | .error e => .fail (.rule e)
where
  /-- Refuses the rule and notes why. -/
  reject (message : String) : Action Session Failure Response := do
    .note .info "Rule rejected" [("rule_name", .text body.name), ("error", .text message)]
    return .detail 422 message

/-- Lists the rules. -/
def listRules : Action Session Failure Response := do
  let rules ← Session.listRules.mapError .rule
  respond 200 (.list (rules.map fun rule => .ofRule rule.name rule.text rule.formula))

/-- Combines stored rules. -/
def combineRules (body : CombineRules) : Action Session Failure Response := do
  match ← (RuleBook.combine body.names (.text body.operator.keyword)).attempt with
  | .ok formula => respond 200 (.object [("ast", formula.toValue)])
  | .error (.notFound names) => respond 404 (.ofMissing names)
  | .error e => .fail (.rule e)

/-- The outcome of a document. That it is no formula is an error of the evaluation. -/
def documentOutcome (body : EvaluateDocument) : Except Number.ConversionError Outcome :=
  match Formula.ofValue? (.object body.document) with
  | .ok formula => formula.evaluate body.data
  | .error e => .ok (.error (.invalid e))

/-- Evaluates a formula that is not stored. -/
def evaluateDocument (body : EvaluateDocument) : Action Session Failure Response := do
  let outcome ← .ofExcept ((documentOutcome body).mapError (.rule ∘ .number))
  respond 200 (.ofEvaluation ⟨"", outcome⟩)

/-- Evaluates a stored rule. -/
def evaluateRule (name : String) (body : EvaluateRule) : Action Session Failure Response := do
  match ← (RuleBook.evaluate name body.data).attempt with
  | .ok evaluation => respond 200 (.ofEvaluation evaluation)
  | .error (.notFound names) => respond 404 (.ofMissing names)
  | .error e => .fail (.rule e)

/-- Lists the attributes by name. -/
def listAttributes : Action Session Failure Response := do
  let attributes ← .read Session.attributesByName
  respondAttributes 200 attributes (.list (attributes.map .ofAttribute))

/-- Registers an attribute and commits it. -/
def createAttribute (a : Attribute) : Action Session Failure Response := do
  let conflict := Response.detail 409 s!"Attribute '{a.name}' already exists"
  if (← .read fun s : Session => s.attribute? a.name).isSome then return conflict
  let stored : Except RuleError Unit ← (Session.storeAttributes [a]).attempt
  match stored with
  | .error _ => return conflict
  | .ok () =>
      .change Session.commit
      .note .info "Attribute registered"
        [("attribute_name", .text a.name), ("data_type", .text a.dataType.word)]
      respondAttributes 201 [a] (.ofAttribute a)

end Eligibility.Handler

import Eligibility.Catalog.Registration
import Eligibility.Rule.Evaluation
import Eligibility.Rule.Parser
import Eligibility.RuleBook.Rule

/-!
# The rule book

Rules are created from their text, combined under one connective, evaluated against records
and listed.
-/

namespace Eligibility

/-- How the rule book treats new rules. -/
structure Policy where
  hints : List String
  maxLength : Option Int
  maxDepth : Nat

/-- The policy unless something else is asked for. -/
def Policy.default : Policy := ⟨DataType.defaultHints, none, Formula.defaultMaxDepth⟩

/-- The catalog of attributes that a session sees. -/
def Session.catalog : Catalog Session where
  findByNames names s := (s.attributesNamed names, s)
  insertMany added s :=
    match s.insertAttributes added with
    | (true, s) => (.ok (), s)
    | (false, s) => (.error (.namesTaken (added.map (·.name))), s)

/-- The evaluation of a stored rule, with the text of the rule. -/
structure Evaluation where
  text : String
  outcome : Outcome

namespace RuleBook

/-- Fails if the text is longer than the policy allows. -/
def checkLength (policy : Policy) (text : String) : Except RuleError Unit :=
  match policy.maxLength with
  | none => .ok ()
  | some limit =>
      if limit < text.length then .error (.syntaxError ⟨.tooLong limit, none⟩) else .ok ()

/-- Creates a rule from its text. Unknown attributes are registered on the way. -/
def create (policy : Policy) (name text : String) : Action Session RuleError Formula := do
  .ofExcept (checkLength policy text)
  if (← Session.findRule name).isSome then .fail (.duplicate name)
  let formula ← .ofExcept ((Formula.ofText? text policy.maxDepth).mapError .ofText)
  Session.catalog.validate policy.hints formula
  let rule ← .ofExcept ((Rule.make? name text formula).mapError .entry)
  Session.storeRule rule
  .note .info "Rule created" [("rule_name", .text name)]
  return formula

/-- The formulas of the rules of these names, in the order of the names. -/
def formulasOf (found : List Rule) (names : List String) : List Formula :=
  names.filterMap fun name => (found.find? fun rule => rule.name == name).map (·.formula)

/-- Combines stored rules in the order of their names. -/
def combine (names : List String) (operator : Value) : Action Session RuleError Formula := do
  if names.isEmpty then .fail (.combination .noNames)
  let found ← Session.findRules names
  let missing := names.filter fun name => !(found.map (·.name)).contains name
  unless missing.isEmpty do
    .note .warning "Rule combination failed: rules not found" [("missing", .texts missing)]
    .fail (.notFound missing)
  let combined ← .ofExcept
    ((Formula.combine operator (formulasOf found names)).mapError .combination)
  .note .info "Rules combined" [("rule_names", .texts names), ("operator", operator)]
  return combined

/-- Evaluates a stored rule. A stored document that is no formula is an error of the
evaluation, not of the request; a number that is not read is one of the request. -/
def evaluate (name : String) (record : Record) : Action Session RuleError Evaluation := do
  match ← (Session.findRule name).attempt with
  | .error (.invalid e) =>
      .note .error "Stored rule has an invalid AST"
        [("rule_name", .text name), ("error", .text e.message)]
      return ⟨"", .error (.invalid e)⟩
  | .error e => .fail e
  | .ok none => .fail (.notFound [name])
  | .ok (some rule) =>
      let outcome ← .ofExcept ((rule.formula.evaluate record).mapError .number)
      .note .info "Rule evaluated"
        [("rule_name", .text name), ("outcome", .text outcome.word),
          ("reason", .ofText? outcome.reason?)]
      return ⟨rule.text, outcome⟩

end RuleBook

end Eligibility

import Eligibility.Number.Reading
import Eligibility.Rule.Encoding

/-!
# Evaluation

A formula passes or fails a record, or the evaluation runs into an error. A comparison with
an attribute that the record lacks fails. Both sides of a join are always evaluated, and an
error of the left side, or else of the right side, is the outcome of the join: it never
counts as a failure. There is no outcome at all when a text that is compared with a number is
an integer with too many digits; the first comparison that meets one ends the evaluation.
-/

namespace Eligibility

/-- Why an evaluation has no answer. -/
inductive EvaluationError where
  /-- An order was asked for between values that are not both numbers. -/
  | requiresNumbers (operator : String)
  /-- The operator of a comparison means nothing. -/
  | unknownOperator (operator : String)
  /-- What was to be evaluated is no formula. -/
  | notFormula
  /-- What was to be evaluated does not decode to a formula. -/
  | invalid (reason : InvalidFormula)

/-- The message of the error. -/
def EvaluationError.message : EvaluationError → String
  | .requiresNumbers operator => s!"Operator '{operator}' requires numeric operands"
  | .unknownOperator operator => s!"Unknown operator {operator}"
  | .notFormula => "Invalid AST node"
  | .invalid reason => reason.message

/-- The outcome of an evaluation. -/
inductive Outcome where
  | passed
  | failed
  | error (e : EvaluationError)

namespace Outcome

/-- Passed or failed. -/
def ofBool (b : Bool) : Outcome := if b then .passed else .failed

/-- The formula passed the record. -/
def isPassed : Outcome → Bool
  | .passed => true
  | _ => false

/-- The word for the outcome. -/
def word : Outcome → String
  | .passed => "passed"
  | .failed => "failed"
  | .error _ => "error"

/-- The message of an error. -/
def reason? : Outcome → Option String
  | .error e => some e.message
  | _ => none

/-- The outcome as shown to people. -/
def display : Outcome → String
  | .passed => "Passed Evaluation"
  | .failed => "Failed Evaluation"
  | .error e => s!"Error: {e.message}"

/-- The outcome of a join from those of its sides. -/
def join (op : Connective) : Outcome → Outcome → Outcome
  | .error e, _ => .error e
  | _, .error e => .error e
  | left, right =>
      match op with
      | .and => ofBool (left.isPassed && right.isPassed)
      | .or => ofBool (left.isPassed || right.isPassed)

end Outcome

namespace Value

/-- The number that a value is. Truth values are no numbers. -/
def number? : Value → Option Number
  | .number n => some n
  | _ => none

/-- The text reads as this number. Only a numeric text is read. -/
def readsAs (s : String) (n : Number) : Except Number.ConversionError Bool :=
  if Number.isNumericText s then (Number.read s).map (·.equal n) else .ok false

/-- The equality of rules: equal truth values, equal texts, equal numbers, or a text that
reads as the number on the other side. Nothing else is equal to anything. -/
def looselyEqual : Value → Value → Except Number.ConversionError Bool
  | .number m, .number n => .ok (m.equal n)
  | .bool a, .bool b => .ok (a == b)
  | .text s, .text t => .ok (s == t)
  | .text s, .number n => readsAs s n
  | .number n, .text s => readsAs s n
  | _, _ => .ok false

end Value

/-- A comparison of rules that asks for an order. -/
def orderOf? (operator : String) : Option (Number → Number → Bool) :=
  if operator = ">" then some fun x y => y.less x
  else if operator = "<" then some fun x y => x.less y
  else if operator = ">=" then some fun x y => y.atMost x
  else if operator = "<=" then some fun x y => x.atMost y
  else none

namespace Comparison

/-- The outcome of a comparison with the value of its attribute. -/
def test (c : Comparison) (actual : Value) : Except Number.ConversionError Outcome :=
  match orderOf? c.operator with
  | some holds =>
      match actual.number?, c.value.toValue.number? with
      | some x, some y => .ok (.ofBool (holds x y))
      | _, _ => .ok (.error (.requiresNumbers c.operator))
  | none =>
      if c.operator = "=" then (actual.looselyEqual c.value.toValue).map .ofBool
      else .ok (.error (.unknownOperator c.operator))

/-- The outcome of a comparison on a record. -/
def evaluate (record : Record) (c : Comparison) : Except Number.ConversionError Outcome :=
  match record.get? c.name with
  | none => .ok .failed
  | some actual => c.test actual

end Comparison

/-- The outcome of a join from those of its sides, if both have one. -/
def Outcome.joinResults (op : Connective) :
    Except Number.ConversionError Outcome → Except Number.ConversionError Outcome →
      Except Number.ConversionError Outcome
  | .error e, _ => .error e
  | .ok _, .error e => .error e
  | .ok left, .ok right => .ok (left.join op right)

/-- The outcome of a formula on a record. -/
def Formula.evaluate (record : Record) (f : Formula) : Except Number.ConversionError Outcome :=
  f.fold (Comparison.evaluate record) (fun op _ _ left right => Outcome.joinResults op left right)

@[simp] theorem Formula.evaluate_atom (record : Record) (c : Comparison) :
    Formula.evaluate record (.atom c) = c.evaluate record := by
  simp [Formula.evaluate]

@[simp] theorem Formula.evaluate_join (record : Record) (op : Connective) (left right : Formula) :
    Formula.evaluate record (.join op left right) =
      Outcome.joinResults op (left.evaluate record) (right.evaluate record) := by
  simp [Formula.evaluate]

/-- What is offered where a formula is wanted: a formula, or a value that is none. -/
inductive Candidate where
  | formula (f : Formula)
  | other (v : Value)

namespace Candidate

/-- The outcome of what is offered on a record. -/
def evaluate (record : Record) : Candidate → Except Number.ConversionError Outcome
  | .formula f => f.evaluate record
  | .other _ => .ok (.error .notFormula)

/-- The formula of a candidate for the side of a join. -/
def formula? : Candidate → Except InvalidFormula Formula
  | .formula f => .ok f
  | .other v => .error (.sideNotFormula v.kindName)

end Candidate

/-- The join of two candidates by the connective that a value names. The connective is
looked at first, then the left side, then the right side. -/
def Formula.join? (operator : Value) (left right : Candidate) : Except InvalidFormula Formula :=
  match Connective.ofValue? operator with
  | none => .error (.unknownConnective operator)
  | some op => do return .join op (← left.formula?) (← right.formula?)

end Eligibility

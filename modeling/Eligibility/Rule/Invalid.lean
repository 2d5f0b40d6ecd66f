import Eligibility.Document.Display

/-!
# Why something is no formula

The reasons for which a document, or the parts of a join, do not make up a formula.
-/

namespace Eligibility

/-- Why something is no formula. -/
inductive InvalidFormula where
  /-- Another kind of value stands where an object has to. -/
  | notAnObject (kind : String)
  /-- The object is neither a comparison nor a join. -/
  | unknownType (type : Value)
  /-- A join lacks one of its sides. -/
  | missingSide
  /-- A comparison lacks its attribute or its operator. -/
  | incompleteComparison
  /-- The literal of a comparison is neither a text nor a number. -/
  | unsupportedLiteral (value : Value)
  /-- A join is not made by AND or OR. -/
  | unknownConnective (operator : Value)
  /-- A side of a join is another kind of value. -/
  | sideNotFormula (kind : String)

/-- The message of the reason. -/
def InvalidFormula.message : InvalidFormula → String
  | .notAnObject kind => s!"Invalid AST node: expected object, got {kind}"
  | .unknownType type => s!"Invalid AST node type: {type.display}"
  | .missingSide => "Invalid AST node: operator node requires left and right"
  | .incompleteComparison => "Invalid AST node: operand requires attribute and operator"
  | .unsupportedLiteral value => s!"Invalid AST node: unsupported operand value {value.display}"
  | .unknownConnective operator => s!"Invalid logical operator: {operator.display}"
  | .sideNotFormula kind => s!"Operator children must be nodes, got {kind}"

end Eligibility

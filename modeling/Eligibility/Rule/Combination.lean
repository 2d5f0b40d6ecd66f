import Eligibility.Document.Display
import Eligibility.Rule.Formula

/-!
# Combination

Several formulas are combined from left to right under one connective. A single formula is
its own combination.
-/

namespace Eligibility

/-- Why formulas cannot be combined. -/
inductive CombinationError where
  /-- The operator is neither AND nor OR. -/
  | unknownOperator (operator : Value)
  /-- There is no formula to combine. -/
  | nothing
  /-- There is no name of a formula to combine. -/
  | noNames

/-- The message of the error. -/
def CombinationError.message : CombinationError → String
  | .unknownOperator operator =>
      s!"Combination operator must be AND or OR, got {operator.display}"
  | .nothing => "At least one rule is required to combine"
  | .noNames => "At least one rule name is required"

namespace Formula

/-- The formulas joined one after the other to the first one. -/
def joinAll (op : Connective) (first : Formula) (rest : List Formula) : Formula :=
  rest.foldl (.join op) first

/-- The combination of a list of formulas by the connective that a value names. -/
def combine (operator : Value) (formulas : List Formula) : Except CombinationError Formula :=
  match Connective.ofValue? operator with
  | none => .error (.unknownOperator operator)
  | some op =>
      match formulas with
      | [] => .error .nothing
      | first :: rest => .ok (joinAll op first rest)

theorem combine_keyword (op : Connective) (first : Formula) (rest : List Formula) :
    combine (.text op.keyword) (first :: rest) = .ok (joinAll op first rest) := by
  simp [combine, Connective.ofValue?, Connective.ofKeyword?_keyword]

end Formula

end Eligibility

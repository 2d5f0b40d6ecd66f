import Eligibility.Document.Display

/-!
# Errors of rule texts

What can be wrong with a rule text, and where. A text may also be well formed and hold a number
that is not read.
-/

namespace Eligibility

/-- What is wrong with a rule text. -/
inductive SyntaxFault where
  /-- The text is longer than allowed. -/
  | tooLong (limit : Int)
  /-- More groups are open than allowed. -/
  | tooDeep
  /-- A group is not closed where it ends. -/
  | unclosedGroup
  /-- The formula ends before the text does. -/
  | trailingTokens
  /-- Fewer than three tokens are left for a comparison. -/
  | incompleteComparison
  /-- Another token stands where an attribute has to. -/
  | expectedName (found : String)
  /-- Another token stands where a comparison operator has to. -/
  | expectedOperator (found : String)
  /-- Another token stands where a literal has to. -/
  | expectedLiteral (found : String)
deriving DecidableEq, Repr

/-- What is wrong with a rule text, and at which character if it has a place. -/
structure SyntaxError where
  fault : SyntaxFault
  position : Option Nat
deriving DecidableEq, Repr

/-- The message of a fault, without its place. -/
def SyntaxFault.message : SyntaxFault → String
  | .tooLong limit => s!"Rule string exceeds maximum length of {limit} characters"
  | .tooDeep => "Rule nesting too deep"
  | .unclosedGroup => "Expected closing parenthesis"
  | .trailingTokens => "Unexpected trailing tokens"
  | .incompleteComparison => "Incomplete operand"
  | .expectedName found => s!"Expected attribute name, found '{found}'"
  | .expectedOperator found => s!"Expected comparison operator, found '{found}'"
  | .expectedLiteral found => s!"Expected value, found '{found}'"

/-- The message of an error, with its place. -/
def SyntaxError.message (e : SyntaxError) : String :=
  match e.position with
  | some position => s!"{e.fault.message} at position {position}"
  | none => e.fault.message

/-- Why a rule text is not read. -/
inductive RuleTextError where
  /-- The text is malformed. -/
  | syntaxError (e : SyntaxError)
  /-- A number of the text is not read. -/
  | number (e : Number.ConversionError)
deriving DecidableEq, Repr

/-- The message of the error. -/
def RuleTextError.message : RuleTextError → String
  | .syntaxError e => e.message
  | .number e => e.message

end Eligibility

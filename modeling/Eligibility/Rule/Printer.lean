import Eligibility.Number.Conversion
import Eligibility.Number.Layout
import Eligibility.Rule.Formula

/-!
# Printing

A formula is printed with parentheses only where the parser would group the text
otherwise: around an OR beside an AND, and around a right side with the connective of its
join, since chains lean to the left. Printing puts the text of a formula in front of a text
that is already printed, so that the time it takes does not depend on how deep the formula
is. A formula that holds an integer with too many digits has no text.
-/

namespace Eligibility

/-- A literal of a rule. A text stands in single quotes, unless it holds one. -/
def Literal.chars : Literal → List Char
  | .text s =>
      let quote := if s.toList.contains '\'' then '"' else '\''
      quote :: (s.toList ++ [quote])
  | .number (.int n) => Number.integerChars n
  | .number (.double x) => x.literalChars

/-- A literal can be written, unless it is an integer with too many digits. -/
def Literal.isWritable : Literal → Bool
  | .number (.int n) => Number.isWritable n
  | _ => true

/-- A literal as it is written. -/
def Literal.write (l : Literal) : Except Number.ConversionError (List Char) :=
  if l.isWritable then .ok l.chars else .error .tooLong

/-- A comparison of a rule, in front of a text. -/
def Comparison.printOnto (c : Comparison) (rest : List Char) : List Char :=
  c.name.toList ++ ' ' :: (c.operator.toList ++ ' ' :: (c.value.chars ++ rest))

namespace Formula

/-- The formula is a join by this connective. -/
def isJoinBy (op : Connective) : Formula → Bool
  | .atom _ => false
  | .join op' _ _ => op == op'

/-- The formula needs parentheses as the left side of a join. -/
def groupsLeft (op : Connective) (left : Formula) : Bool :=
  op == .and && left.isJoinBy .or

/-- The formula needs parentheses as the right side of a join. -/
def groupsRight (op : Connective) (right : Formula) : Bool :=
  right.isJoinBy op || (op == .and && right.isJoinBy .or)

/-- A printed part, in parentheses if it needs them. -/
def group (needed : Bool) (print : List Char → List Char) (rest : List Char) : List Char :=
  if needed then '(' :: print (')' :: rest) else print rest

/-- The text of a join in front of a text, from the printed sides. -/
def printJoin (op : Connective) (left right : Formula)
    (printLeft printRight : List Char → List Char) (rest : List Char) : List Char :=
  group (groupsLeft op left) printLeft
    (' ' :: (op.keyword.toList ++ ' ' :: group (groupsRight op right) printRight rest))

/-- A formula in front of a text. -/
def printOnto (f : Formula) : List Char → List Char := fold Comparison.printOnto printJoin f

/-- Every literal of the formula can be written. -/
def isWritable (f : Formula) : Bool := f.comparisons.all fun c => c.value.isWritable

/-- The rule text of a formula. -/
def text (f : Formula) : Except Number.ConversionError String :=
  if f.isWritable then .ok (String.ofList (f.printOnto [])) else .error .tooLong

@[simp] theorem printOnto_atom (c : Comparison) (rest : List Char) :
    printOnto (.atom c) rest = c.printOnto rest := by
  simp [printOnto]

@[simp] theorem printOnto_join (op : Connective) (left right : Formula) (rest : List Char) :
    printOnto (.join op left right) rest =
      printJoin op left right left.printOnto right.printOnto rest := by
  simp [printOnto]

end Formula

end Eligibility

import Eligibility.Text.Blank
import Eligibility.Text.Lowercase

/-!
# Confirmation

A question that is answered with yes or no is asked again until the answer is one of the
two. No answer at all means no, and so does the end of the input. The answers are shown
behind the question.
-/

namespace Eligibility.CommandLine

/-- The lines of a text. A line ends with a line feed, a carriage return, or both. -/
def linesFrom : List Char → List Char → List String
  | [], [] => []
  | line, [] => [String.ofList line.reverse]
  | line, '\r' :: '\n' :: cs => String.ofList line.reverse :: linesFrom [] cs
  | line, c :: cs =>
      if c = '\n' ∨ c = '\r' then String.ofList line.reverse :: linesFrom [] cs
      else linesFrom (c :: line) cs

/-- The lines of a text. -/
def linesOf (s : String) : List String := linesFrom [] s.toList

/-- What an answer means, if it can be understood. -/
def answer? (line : String) : Option Bool :=
  match Text.trim (Text.lower line) with
  | "y" => some true
  | "yes" => some true
  | "n" => some false
  | "no" => some false
  | "" => some false
  | _ => none

/-- What is shown while a question is asked, given the lines of the input, and the answer. -/
def confirm (question : String) : List String → String × Bool
  | [] => (question, false)
  | line :: lines =>
      match answer? line with
      | some answer => (s!"{question}{line}\n", answer)
      | none =>
          let (shown, answer) := confirm question lines
          (s!"{question}{line}\nError: invalid input\n" ++ shown, answer)

end Eligibility.CommandLine

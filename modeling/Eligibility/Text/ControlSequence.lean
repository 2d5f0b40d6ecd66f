/-!
# Control sequences

A terminal takes some characters for orders instead of showing them: an escape, an opening
bracket, any parameters, any intermediate characters, and a final character. Where nothing
reads such orders, they are left out.
-/

namespace Eligibility.Text

/-- A parameter of a control sequence. -/
def isParameter (c : Char) : Bool := '0' ≤ c && c ≤ '?'

/-- A character between the parameters and the final character of a control sequence. -/
def isIntermediate (c : Char) : Bool := ' ' ≤ c && c ≤ '/'

/-- The final character of a control sequence. -/
def isFinal (c : Char) : Bool := '@' ≤ c && c ≤ '~'

/-- How many characters at the start of a text belong to the control sequence whose escape
has just been passed, if there is one. -/
def sequenceLength? (cs : List Char) : Option Nat :=
  match cs with
  | '[' :: cs =>
      let afterParameters := cs.dropWhile isParameter
      match afterParameters.dropWhile isIntermediate with
      | c :: rest => if isFinal c then some (cs.length + 1 - rest.length) else none
      | [] => none
  | _ => none

/-- The characters without the control sequences, where a number of characters belong to a
sequence that has been found already. -/
def dropSequences : Nat → List Char → List Char
  | _, [] => []
  | skipped + 1, _ :: cs => dropSequences skipped cs
  | 0, c :: cs =>
      if c = '\x1b' then
        match sequenceLength? cs with
        | some length => dropSequences length cs
        | none => c :: dropSequences 0 cs
      else c :: dropSequences 0 cs

/-- The text without its control sequences. -/
def withoutSequences (s : String) : String := String.ofList (dropSequences 0 s.toList)

end Eligibility.Text

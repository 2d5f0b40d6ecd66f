import Eligibility.Document.Display

/-!
# Misuse of the command line

What can be wrong with the words of a command line, and how that is said.
-/

namespace Eligibility.CommandLine

/-- What is wrong with a command line. -/
inductive Misuse where
  /-- No option has this name; some have a name close to it. -/
  | unknownOption (name : String) (close : List String)
  /-- The value of an option is not given. -/
  | valueMissing (option : String)
  /-- A value is given to an option that takes none. -/
  | valueRefused (option : String)
  /-- The value of an option is not an integer. -/
  | integerExpected (option value : String)
  /-- An argument is not given. -/
  | argumentMissing (argument : String)
  /-- More arguments are given than are taken. -/
  | argumentsLeft (arguments : List String)
  /-- No command is given. -/
  | commandMissing
  /-- No command has this name; some have a name close to it. -/
  | unknownCommand (name : String) (close : List String)
  /-- The record is not a readable document. -/
  | recordUnreadable
  /-- The record is a document, but no object. -/
  | recordNotObject
deriving DecidableEq, Repr

/-- An option lacks the value that it takes, or has one that it does not take. -/
def Misuse.concernsValue : Misuse → Bool
  | .valueMissing _ => true
  | .valueRefused _ => true
  | _ => false

/-- The hint at the names that may have been meant. -/
def hintAt (close : List String) : String :=
  match close with
  | [] => ""
  | [name] => s!" Did you mean {Text.display name}?"
  | names => " (Did you mean one of: " ++ ", ".intercalate (names.map Text.display) ++ "?)"

/-- The message of a misuse. -/
def Misuse.message : Misuse → String
  | .unknownOption name close => s!"No such option {Text.display name}." ++ hintAt close
  | .valueMissing option => s!"Option {Text.display option} requires an argument."
  | .valueRefused option => s!"Option {Text.display option} does not take a value."
  | .integerExpected option value =>
      s!"Invalid value for {Text.display option}: {Text.display value} is not a valid integer."
  | .argumentMissing argument => s!"Missing argument {Text.display argument}."
  | .argumentsLeft [argument] => s!"Got unexpected extra argument ({argument})"
  | .argumentsLeft arguments =>
      "Got unexpected extra arguments (" ++ " ".intercalate arguments ++ ")"
  | .commandMissing => "Missing command."
  | .unknownCommand name close => s!"No such command {Text.display name}." ++ hintAt close
  | .recordUnreadable => "Invalid value for --data: invalid JSON"
  | .recordNotObject => "Invalid value for --data: record must be a JSON object"

end Eligibility.CommandLine

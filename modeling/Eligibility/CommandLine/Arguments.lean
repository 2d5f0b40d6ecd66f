import Eligibility.CommandLine.Misuse
import Eligibility.Number.Reading
import Eligibility.Text.Closeness

/-!
# Options and arguments

The words of a command line are options, which begin with a dash, and arguments. An option
may have a value, which is attached with an equals sign or is the next word, whatever that
looks like. A word of two dashes ends the options. If an option is given again, its last
value counts.
-/

namespace Eligibility.CommandLine

/-- What an option takes. -/
inductive OptionKind where
  | flag
  | text
  | integer
deriving DecidableEq, Repr

/-- An option that a command has. -/
structure OptionForm where
  name : String
  kind : OptionKind
  about : String

/-- The words of a command line, sorted: the options in order, each with its value, and the
arguments. A flag has an empty value. -/
structure Arguments where
  options : List (String × String)
  operands : List String

namespace Arguments

/-- The arguments with an option in front. -/
def addOption (name value : String) (a : Arguments) : Arguments :=
  { a with options := (name, value) :: a.options }

/-- The arguments with another one in front. -/
def addOperand (word : String) (a : Arguments) : Arguments :=
  { a with operands := word :: a.operands }

/-- A word of an option: what stands before the first equals sign, and the value attached
after it. -/
def splitValue (word : String) : String × Option String :=
  let before := word.toList.takeWhile (· != '=')
  match word.toList.drop before.length with
  | _ :: value => (String.ofList before, some (String.ofList value))
  | [] => (word, none)

/-- A word that names an option: a dash and more. -/
def namesOption (word : String) : Bool :=
  match word.toList with
  | '-' :: _ :: _ => true
  | _ => false

/-- The misuse of a word that names no known option. Behind a single dash, only the first
letter counts as the name. -/
def unknown (forms : List OptionForm) (word : String) : Misuse :=
  match word.toList with
  | '-' :: '-' :: _ =>
      let name := (splitValue word).1
      .unknownOption name (Text.closeWords (forms.map (·.name)) name)
  | letters => .unknownOption (String.ofList (letters.take 2)) []

/-- Sorts the words of a command line. Unless options may stand anywhere, the first argument
ends them. -/
def ofWords? (forms : List OptionForm) (anywhere : Bool) :
    List String → Except Misuse Arguments
  | [] => .ok ⟨[], []⟩
  | word :: rest =>
      if word = "--" then .ok ⟨[], rest⟩
      else if namesOption word then
        match forms.find? fun form => form.name == (splitValue word).1 with
        | none => .error (unknown forms word)
        | some form =>
            match form.kind, (splitValue word).2 with
            | .flag, none => (ofWords? forms anywhere rest).map (addOption form.name "")
            | .flag, some _ => .error (.valueRefused form.name)
            | _, some value => (ofWords? forms anywhere rest).map (addOption form.name value)
            | _, none =>
                match rest with
                | [] => .error (.valueMissing form.name)
                | value :: rest => (ofWords? forms anywhere rest).map (addOption form.name value)
      else if anywhere then (ofWords? forms anywhere rest).map (addOperand word)
      else .ok ⟨[], word :: rest⟩

/-- An option is given. -/
def has (a : Arguments) (name : String) : Bool := a.options.any fun (given, _) => given == name

/-- The last value of an option. -/
def value? (a : Arguments) (name : String) : Option String :=
  (a.options.reverse.find? fun (given, _) => given == name).map (·.2)

/-- The integer that an option has, if it is given. -/
def integer? (a : Arguments) (name : String) : Except Misuse (Option Int) :=
  match a.value? name with
  | none => .ok none
  | some value =>
      match Number.readInteger value with
      | .ok n => .ok (some n)
      | .error _ => .error (.integerExpected name value)

/-- All options that take integers have one. The first option given that has none is the one
that is reported. -/
def checkIntegers (forms : List OptionForm) (a : Arguments) : Except Misuse Unit :=
  (a.options.filter fun (given, _) =>
      forms.any fun form => form.name == given && form.kind == .integer).forM
    fun (given, _) => discard (a.integer? given)

/-- No argument is left over. -/
def checkNone : List String → Except Misuse Unit
  | [] => .ok ()
  | operands => .error (.argumentsLeft operands)

/-- The only argument there may be. -/
def single (name : String) (a : Arguments) : Except Misuse String :=
  match a.operands with
  | [] => .error (.argumentMissing name)
  | operand :: others => (checkNone others).map fun _ => operand

end Arguments

end Eligibility.CommandLine

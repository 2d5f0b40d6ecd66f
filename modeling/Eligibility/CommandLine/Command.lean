import Eligibility.CommandLine.Arguments

/-!
# Commands

A command line names one of five commands, with its options and arguments, or asks for a
help page or the version. In front of the command only general options may stand. A help
page is shown even if something else is missing or wrong, as long as the options are known.
-/

namespace Eligibility.CommandLine

/-- The name of a command. -/
inductive CommandName where
  | evaluate
  | info
  | initDb
  | parse
  | serve
deriving DecidableEq, Repr

namespace CommandName

/-- The commands in the order of their words. -/
def all : List CommandName := [evaluate, info, initDb, parse, serve]

/-- The word for a command. -/
def word : CommandName → String
  | evaluate => "evaluate"
  | info => "info"
  | initDb => "init-db"
  | parse => "parse"
  | serve => "serve"

/-- The command of a word. -/
def ofWord? (s : String) : Option CommandName := all.find? fun c => c.word == s

end CommandName

/-- The name of the argument of the commands that work on a rule. -/
def ruleArgument : String := "RULE"

/-- The option that asks for a help page. -/
def helpOption : OptionForm := ⟨"--help", .flag, "Show this message and exit."⟩

/-- The option that asks for the version. -/
def versionOption : OptionForm := ⟨"--version", .flag, "Show the version and exit."⟩

/-- The options in front of the command. -/
def generalOptions : List OptionForm := [versionOption, helpOption]

namespace CommandName

/-- The name of the argument that a command takes. -/
def argument? : CommandName → Option String
  | evaluate => some ruleArgument
  | parse => some ruleArgument
  | _ => none

/-- The options of a command. -/
def options : CommandName → List OptionForm
  | evaluate =>
      [⟨"--data", .text, "Record to evaluate against, as a JSON object"⟩, helpOption]
  | info => [helpOption]
  | initDb => [⟨"--force", .flag, "Skip confirmation prompt"⟩, helpOption]
  | parse => [helpOption]
  | serve =>
      [⟨"--host", .text, "Host to bind to (overrides config)"⟩,
        ⟨"--port", .integer, "Port to bind to (overrides config)"⟩,
        ⟨"--workers", .integer, "Number of worker processes (overrides config)"⟩,
        ⟨"--reload", .flag, "Enable auto-reload for development"⟩, helpOption]

/-- What a command does, in one line. -/
def summary : CommandName → String
  | evaluate => "Evaluate RULE against a JSON record."
  | info => "Display RuleCraft configuration."
  | initDb => "Initialize the database."
  | parse => "Parse RULE and print its tree as JSON."
  | serve => "Start the RuleCraft API server."

/-- More lines on what a command does. -/
def details : CommandName → List String
  | evaluate => ["Exits with status 0 when the rule passes, 1 when it fails and 2 on errors."]
  | initDb =>
      ["Creates the rules and attributes tables. Use this only in development. In",
        "production, use migrations instead."]
  | _ => []

end CommandName

/-- What `serve` is asked to do differently from the settings. -/
structure ServeOptions where
  host : Option String
  port : Option Int
  workers : Option Int
  reload : Bool
deriving DecidableEq, Repr

/-- A command with what it needs. -/
inductive Command where
  | evaluate (rule data : String)
  | info
  | initDb (force : Bool)
  | parse (rule : String)
  | serve (options : ServeOptions)
deriving DecidableEq, Repr

/-- What a command line asks for. -/
inductive Invocation where
  | help (topic : Option CommandName)
  | version
  | command (c : Command)
deriving DecidableEq, Repr

/-- A command line that asks for nothing: what is wrong with it, and with which command; or
it is empty. -/
inductive Refusal where
  | misuse (topic : Option CommandName) (m : Misuse)
  | empty
deriving DecidableEq, Repr

/-- The command of a name and its arguments. -/
def Command.ofArguments? (name : CommandName) (a : Arguments) : Except Misuse Command := do
  a.checkIntegers name.options
  match name with
  | .evaluate => return .evaluate (← a.single ruleArgument) ((a.value? "--data").getD "{}")
  | .parse => return .parse (← a.single ruleArgument)
  | .info =>
      Arguments.checkNone a.operands
      return .info
  | .initDb =>
      Arguments.checkNone a.operands
      return .initDb (a.has "--force")
  | .serve =>
      Arguments.checkNone a.operands
      return .serve ⟨a.value? "--host", ← a.integer? "--port", ← a.integer? "--workers",
        a.has "--reload"⟩

namespace Invocation

/-- What the words after the name of a command ask for. -/
def ofCommandWords? (name : CommandName) (words : List String) : Except Misuse Invocation := do
  let a ← Arguments.ofWords? name.options true words
  if a.has helpOption.name then return .help (some name)
  return .command (← Command.ofArguments? name a)

/-- What the general options ask for, if there are any, and the words behind them. -/
def ofGeneralWords? (words : List String) : Except Misuse (Option Invocation × List String) := do
  let a ← Arguments.ofWords? generalOptions false words
  let asked := a.options.head?.map fun (name, _) =>
    if name = versionOption.name then version else help none
  return (asked, a.operands)

/-- What is asked for by words that begin with no known command. Behind two dashes, they may
still be general options. -/
def ofUnknown? (word : String) (rest : List String) : Except Misuse Invocation := do
  match ← ofGeneralWords? (word :: rest) with
  | (some asked, _) => return asked
  | (none, _) =>
      throw (.unknownCommand word (Text.closeWords (CommandName.all.map CommandName.word) word))

/-- What a command line asks for. -/
def ofWords? (words : List String) : Except Refusal Invocation := do
  if words.isEmpty then throw .empty
  match ← (ofGeneralWords? words).mapError (.misuse none) with
  | (some asked, _) => return asked
  | (none, []) => throw (.misuse none .commandMissing)
  | (none, word :: rest) =>
      match CommandName.ofWord? word with
      | some name => (ofCommandWords? name rest).mapError (.misuse (some name))
      | none => (ofUnknown? word rest).mapError (.misuse none)

end Invocation

end Eligibility.CommandLine

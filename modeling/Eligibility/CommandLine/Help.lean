import Eligibility.CommandLine.Command

/-!
# Help pages

A help page has a usage line, what the command does, and tables of options and commands.
Each table has two columns, of which the first one is as wide as its widest entry.
-/

namespace Eligibility.CommandLine

/-- The name under which the program is called. -/
def program : String := "rulecraft"

/-- The name and the version of the product. -/
def versionLine : String := "RuleCraft, version 0.1.0"

/-- What the program is. -/
def programSummary : String := "RuleCraft - boolean rule engine over named attributes."

/-- The program, or the program and one of its commands. -/
def calledAs : Option CommandName → String
  | none => program
  | some name => s!"{program} {name.word}"

/-- How the program or a command is called. -/
def usageLine (topic : Option CommandName) : String :=
  let operands := match topic with
    | none => ["COMMAND", "[ARGS]..."]
    | some name => name.argument?.toList
  " ".intercalate (["Usage:", calledAs topic, "[OPTIONS]"] ++ operands)

/-- The entry of an option in a table. -/
def OptionForm.entry (form : OptionForm) : String :=
  match form.kind with
  | .flag => form.name
  | .text => s!"{form.name} TEXT"
  | .integer => s!"{form.name} INTEGER"

/-- The lines of a table under its heading. -/
def table (heading : String) (rows : List (String × String)) : List String :=
  let width := (rows.map fun (entry, _) => entry.length).foldl max 0
  heading :: rows.map fun (entry, about) =>
    "  " ++ entry ++ "".pushn ' ' (width + 2 - entry.length) ++ about

/-- The paragraphs on what the program or a command does. -/
def paragraphs : Option CommandName → List (List String)
  | none => [[programSummary]]
  | some name => [[name.summary], name.details].filter fun lines => !lines.isEmpty

/-- The tables of the program or a command. -/
def tables (topic : Option CommandName) : List (List String) :=
  let options := match topic with
    | none => generalOptions
    | some name => name.options
  let commands := match topic with
    | none => [table "Commands:" (CommandName.all.map fun c => (c.word, c.summary))]
    | some _ => []
  table "Options:" (options.map fun form => (form.entry, form.about)) :: commands

/-- The help page of the program or of a command. -/
def helpPage (topic : Option CommandName) : String :=
  let blocks := [usageLine topic] ::
    ((paragraphs topic).map fun lines => lines.map ("  " ++ ·)) ++ tables topic
  "\n\n".intercalate (blocks.map "\n".intercalate) ++ "\n"

/-- The page that tells of a misuse: the usage, where to find help, and what is wrong. The
usage does not stand there when an option and its value do not go together. -/
def misusePage (topic : Option CommandName) (m : Misuse) : String :=
  let usage :=
    if m.concernsValue then ""
    else s!"{usageLine topic}\nTry '{calledAs topic} {helpOption.name}' for help.\n\n"
  usage ++ s!"Error: {m.message}\n"

end Eligibility.CommandLine

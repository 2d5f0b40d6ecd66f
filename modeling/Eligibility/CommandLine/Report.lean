import Eligibility.Api.Server
import Eligibility.CommandLine.Confirmation
import Eligibility.CommandLine.Help
import Eligibility.Document.Writer
import Eligibility.Text.ControlSequence

/-!
# Running commands

A command reads the settings from the environment and reports what it writes and the status
with which it ends. Messages are written without control sequences. The server is not started
here: the report says how it is to be.
-/

namespace Eligibility.CommandLine

/-- How the server is to be started. -/
structure Launch where
  host : String
  port : Int
  workers : Int
  reload : Bool
  logLevel : LogLevel

/-- Why a command ends without a report. -/
inductive CommandError where
  /-- The server, or what a command shares with it, cannot be set up. -/
  | start (e : StartError)
  /-- A number is not read: in a rule, in a record, or in a text that is compared with one. -/
  | number (e : Number.ConversionError)

/-- The message of the error. -/
def CommandError.message : CommandError → String
  | .start e => e.message
  | .number e => e.message

/-- What a command leads to: its status, what it writes as output and as errors, and the
server that it starts. -/
structure Report where
  status : Nat
  output : String
  errors : String
  launch : Option Launch

namespace Report

/-- The report of a command that writes output only. -/
def written (status : Nat) (output : String) : Report :=
  ⟨status, Text.withoutSequences output, "", none⟩

/-- The report of a command that writes errors only. -/
def failed (status : Nat) (errors : String) : Report :=
  ⟨status, "", Text.withoutSequences errors, none⟩

/-- The report with something in front of its output, written as it is. -/
def after (shown : String) (r : Report) : Report := { r with output := shown ++ r.output }

end Report

/-- A given value, unless it is empty. -/
def givenText (given : Option String) (setting : String) : String :=
  match given with
  | some s => if s.isEmpty then setting else s
  | none => setting

/-- A given integer, unless it is zero. -/
def givenInteger (given : Option Int) (setting : Int) : Int :=
  match given with
  | some n => if n = 0 then setting else n
  | none => setting

/-- How the server is to be started under the settings. With reloading there is only one
worker. -/
def Launch.ofOptions (s : Settings) (o : ServeOptions) : Launch where
  host := givenText o.host s.host
  port := givenInteger o.port s.port
  workers := if o.reload then 1 else givenInteger o.workers s.workers
  reload := o.reload
  logLevel := s.logLevel

/-- The start of the server as fields. Every access is logged. -/
def Launch.toFields (launch : Launch) : Fields :=
  [("host", .text launch.host), ("port", .ofInt launch.port),
    ("workers", .ofInt launch.workers), ("reload", .bool launch.reload),
    ("log_level", .text launch.logLevel.word), ("access_log", .bool true)]

/-- The lines that show the settings. -/
def settingsLines (s : Settings) : List String :=
  ["", s!"RuleCraft v{s.appVersion}", "".pushn '=' 40, "",
    "Configuration:",
    s!"  Environment:  {s.environment.word}",
    s!"  Debug:        {(Value.bool s.debug).display}",
    s!"  API Prefix:   {s.apiPrefix}", "",
    "Server:",
    s!"  Host:         {s.host}",
    s!"  Port:         {Number.integerText s.port}",
    s!"  Workers:      {Number.integerText s.workers}", "",
    "Database:",
    s!"  URL:          {s.databaseUrl}",
    s!"  Echo:         {(Value.bool s.databaseEcho).display}", "",
    "Rules:",
    "  Numeric hints:  " ++ ", ".intercalate s.numericHints,
    s!"  Max length:     {Number.integerText s.maxRuleLength}",
    s!"  Max depth:      {Number.integerText s.maxRuleDepth}", "",
    "Logging:",
    s!"  Level:        {s.logLevel.settingName}",
    s!"  Format:       {s.logFormat.word}", ""]

/-- What the user is asked before tables are created. -/
def createTablesQuestion : String := "This will create all database tables. Continue? [y/N]: "

/-- The status of a command that evaluates a rule. -/
def statusOf : Outcome → Nat
  | .passed => 0
  | .failed => 1
  | .error _ => 2

namespace Command

/-- The settings of the environment. -/
def settings (env : Variables) : Except CommandError Settings :=
  (Settings.read env []).mapError (.start ∘ .settings)

/-- The rule text is a formula, or the command ends with a status. -/
def withFormula (env : Variables) (status : Nat) (text : String)
    (work : Formula → Except CommandError Report) : Except CommandError Report := do
  let s ← settings env
  match Formula.ofText? text s.maxRuleDepth.toNat with
  | .error (.syntaxError e) => return .failed status s!"Syntax error: {e.message}\n"
  | .error (.number e) => throw (.number e)
  | .ok formula => work formula

/-- Prints the document of a rule. -/
def printTree (env : Variables) (rule : String) : Except CommandError Report :=
  withFormula env 1 rule fun formula => return .written 0 (formula.toValue.write ++ "\n")

/-- The report of an evaluation. -/
def outcomeReport (outcome : Outcome) : Report :=
  .written (statusOf outcome) (outcome.display ++ "\n")

/-- Evaluates a rule against a record. The record is read first. -/
def printOutcome (env : Variables) (rule data : String) : Except CommandError Report :=
  match Document.read? data with
  | .error .malformed => return .failed 2 (misusePage (some .evaluate) .recordUnreadable)
  | .error (.number e) => throw (.number e)
  | .ok (.object record) =>
      withFormula env 2 rule fun formula =>
        ((formula.evaluate record).map outcomeReport).mapError .number
  | .ok _ => return .failed 2 (misusePage (some .evaluate) .recordNotObject)

/-- Shows the settings. -/
def printSettings (env : Variables) : Except CommandError Report := do
  return .written 0 ("\n".intercalate (settingsLines (← settings env)) ++ "\n")

/-- Logging can be set up. Nothing else in the process has set it up before. -/
def checkLogging (s : Settings) : Except CommandError Unit :=
  (LogOutput.ofSettings? s false).mapError (.start ∘ .logging) |>.map fun _ => ()

/-- Starts the server. -/
def startServer (env : Variables) (o : ServeOptions) : Except CommandError Report := do
  let s ← settings env
  checkLogging s
  return ⟨0, "", "", some (.ofOptions s o)⟩

/-- Creates the tables, if the database can be reached. -/
def createTables (s : Settings) : Except CommandError String :=
  match s.checkDatabase with
  | .ok () => .ok "Database initialized successfully.\n"
  | .error _ => .error (.start .database)

/-- Creates the tables of the database. Unless it is forced, production is refused, and the
user is asked first. -/
def createDatabase (env : Variables) (force : Bool) (answers : List String) :
    Except CommandError Report := do
  let s ← settings env
  checkLogging s
  if force then return .written 0 (← createTables s)
  if s.isProduction then
    return .failed 1 "ERROR: Running in production mode. Use migrations instead of init-db.\n"
  let (shown, confirmed) := confirm createTablesQuestion answers
  if confirmed then return (Report.written 0 (← createTables s)).after shown
  return ⟨1, shown, "Aborted!\n", none⟩

/-- Runs a command, given the environment and the lines of the input. -/
def run (env : Variables) (input : List String) : Command → Except CommandError Report
  | .evaluate rule data => printOutcome env rule data
  | .info => printSettings env
  | .initDb force => createDatabase env force input
  | .parse rule => printTree env rule
  | .serve options => startServer env options

end Command

/-- A command line leads to a question. -/
def readsInput (words : List String) : Bool :=
  match Invocation.ofWords? words with
  | .ok (.command (.initDb force)) => !force
  | _ => false

/-- Runs a command line. -/
def run (env : Variables) (input : List String) (words : List String) :
    Except CommandError Report :=
  match Invocation.ofWords? words with
  | .ok (.help topic) => return .written 0 (helpPage topic)
  | .ok .version => return .written 0 (versionLine ++ "\n")
  | .ok (.command c) => c.run env input
  | .error (.misuse topic m) => return .failed 2 (misusePage topic m)
  | .error .empty => return .failed 2 (helpPage none)

end Eligibility.CommandLine

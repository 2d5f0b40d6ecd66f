import Eligibility.Document.Value

/-!
# Log events

An event has a level, a text and fields of its own. Programs log by words: those for the
levels, other words for two of them, and one for an error with the exception at hand.
-/

namespace Eligibility

/-- The levels of log events, from the least to the most severe. -/
inductive LogLevel where
  | debug
  | info
  | warning
  | error
  | critical
deriving DecidableEq, Repr

namespace LogLevel

/-- How severe a level is. -/
def severity : LogLevel → Nat
  | .debug => 10
  | .info => 20
  | .warning => 30
  | .error => 40
  | .critical => 50

/-- The word for a level. -/
def word : LogLevel → String
  | .debug => "debug"
  | .info => "info"
  | .warning => "warning"
  | .error => "error"
  | .critical => "critical"

/-- The level of a word. -/
def ofWord? (s : String) : Option LogLevel :=
  [debug, info, warning, error, critical].find? fun level => level.word == s

end LogLevel

/-- Something that is worth a line in the log. -/
structure LogEvent where
  level : LogLevel
  text : String
  fields : Fields

/-- The event of the word by which it is logged. -/
def LogEvent.ofWord? (word text : String) (fields : Fields) : Option LogEvent :=
  match word with
  | "warn" => some ⟨.warning, text, fields⟩
  | "fatal" => some ⟨.critical, text, fields⟩
  | "exception" =>
      let isGiven := (fields.get? "exc_info").isSome
      some ⟨.error, text, if isGiven then fields else fields.put "exc_info" (.bool true)⟩
  | word => (LogLevel.ofWord? word).map fun level => ⟨level, text, fields⟩

end Eligibility

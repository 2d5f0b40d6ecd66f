import Eligibility.Settings.Basic

/-!
# Log lines

An event becomes a line with its own fields, the identifier that ties together the lines of
one request, and fields that every line has. An identifier in the event's own fields goes
before the one that is bound to the context, and a line without either gets a fresh one. A
time stamp is added where lines are written.
-/

namespace Eligibility

/-- The identifier that ties lines together: given from outside, or generated. -/
inductive CorrelationId where
  | given (v : Value)
  | generated

/-- The identifier that is bound, if one is. -/
abbrev LogContext := Option CorrelationId

/-- A log line without its time stamp. -/
structure LogLine where
  correlation : CorrelationId
  fields : Fields

/-- The fields without those of some names. -/
def Fields.without (fields : Fields) (keys : List String) : Fields :=
  List.filter (fun (key, _) => !keys.contains key) fields

namespace LogEvent

/-- The fields that a line sets itself, whatever the event says. -/
def reserved : List String :=
  ["correlation_id", "level", "logger", "timestamp", "message", "stack_info"]

/-- The line of an event. -/
def line (context : LogContext) (e : LogEvent) : LogLine where
  correlation :=
    match e.fields.get? "correlation_id" with
    | some own => .given own
    | none => context.getD .generated
  fields :=
    Fields.without e.fields reserved ++
      [("level", .text e.level.word), ("logger", .text "rulecraft"), ("message", .text e.text)]

end LogEvent

/-- Why logging cannot be set up. -/
inductive LogSetupError where
  /-- A stream and handlers are both given, and nothing is set up yet. -/
  | conflictingHandlers
deriving DecidableEq, Repr

/-- The message of the error. -/
def LogSetupError.message : LogSetupError → String
  | .conflictingHandlers =>
      "'stream' or 'filename' should not be specified together with 'handlers'"

/-- Where log lines go: the least level that is written, and the layout. -/
structure LogOutput where
  threshold : LogLevel
  format : LogFormat

namespace LogOutput

/-- The layout that the settings lead to. In development lines are laid out for people. -/
def formatOf (s : Settings) : LogFormat := if s.isDevelopment then .console else s.logFormat

/-- The output of the settings. Lines laid out as documents need a handler that is set up
already. -/
def ofSettings? (s : Settings) (handlerPresent : Bool) : Except LogSetupError LogOutput :=
  if formatOf s = .json ∧ handlerPresent = false then .error .conflictingHandlers
  else .ok ⟨s.logLevel, formatOf s⟩

/-- The event is severe enough to be written. -/
def writes (output : LogOutput) (e : LogEvent) : Bool :=
  output.threshold.severity ≤ e.level.severity

/-- The lines of a list of events. -/
def lines (output : LogOutput) (context : LogContext) (log : List LogEvent) : List LogLine :=
  (log.filter output.writes).map (LogEvent.line context)

end LogOutput

/-! ## Programs -/

/-- A field of an event has the name of something that logging takes itself. -/
structure FieldClash where
  name : String
  /-- The event is severe enough to be written. -/
  isWritten : Bool
deriving DecidableEq, Repr

namespace FieldClash

/-- The names that logging takes first. -/
def firstNames : List String := ["event", "self"]

/-- The name that logging takes when it hands an event on to be written. -/
def methodName : String := "method_name"

/-- The step of logging that takes the name. -/
def place (clash : FieldClash) : String :=
  if clash.name = methodName then "BoundLoggerBase._proxy_to_logger"
  else if clash.isWritten then "_make_filtering_bound_logger.<locals>.make_method.<locals>.meth"
  else "_nop"

/-- The message of the clash. -/
def message (clash : FieldClash) : String :=
  s!"{clash.place}() got multiple values for argument '{clash.name}'"

end FieldClash

/-- A step of a program that logs. The identifier that is bound is given, or generated. -/
inductive LogStep where
  | bind (id : Value)
  | bindGenerated
  | clear
  | write (e : LogEvent)

namespace LogOutput

/-- No field of the event has a name that is taken. -/
def check (output : LogOutput) (e : LogEvent) : Except FieldClash Unit := do
  let names := e.fields.map (·.1)
  let isWritten := output.writes e
  if let some name := names.find? FieldClash.firstNames.contains then throw ⟨name, isWritten⟩
  if isWritten && names.contains FieldClash.methodName then
    throw ⟨FieldClash.methodName, isWritten⟩

/-- The lines of a list of steps, from a context on. -/
def run (output : LogOutput) : LogContext → List LogStep → Except FieldClash (List LogLine)
  | _, [] => .ok []
  | _, .bind id :: steps => run output (some (.given id)) steps
  | _, .bindGenerated :: steps => run output (some .generated) steps
  | _, .clear :: steps => run output none steps
  | context, .write e :: steps => do
      output.check e
      return output.lines context [e] ++ (← run output context steps)

end LogOutput

end Eligibility

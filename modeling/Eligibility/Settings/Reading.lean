import Eligibility.Document.Display
import Eligibility.Document.Reader
import Eligibility.Settings.Basic
import Eligibility.Settings.Scalar
import Eligibility.Text.Lowercase

/-!
# Reading the settings

Settings come from the environment, as texts, and from the caller, as values; a value of the
caller wins. Lists in the environment are documents, except the numeric hints, which may
also be a plain list with commas. All faulty settings are reported together.
-/

namespace Eligibility

/-- Environment variables with their values. -/
abbrev Variables := List (String × String)

/-- Why there are no settings. -/
inductive SettingsError where
  /-- A list of the environment is no document. -/
  | undecodable (field : String)
  /-- A numeric hint is another kind of value. -/
  | hintNotText (kind : String)
  /-- The numeric hints are no list. -/
  | hintsNotList (kind : String)
  /-- Settings that do not pass their checks. -/
  | invalid (faults : List Fault)

namespace Settings

open Text

/-! ## Lists -/

/-- The parts of a text between commas. -/
def splitCommas (cs : List Char) : List (List Char) :=
  match cs with
  | [] => [[]]
  | c :: rest =>
      if c = ',' then [] :: splitCommas rest
      else match splitCommas rest with
        | part :: parts => (c :: part) :: parts
        | [] => [[c]]

/-- The parts of a text between commas, as texts. -/
def parts (s : String) : List String := (splitCommas s.toList).map String.ofList

/-- The origins of a list, or of a text with commas. -/
def origins : Value → Checked (List String)
  | .text s => .ok ((parts s).map trim)
  | v => Checked.texts v

/-- The hints of a list of texts: trimmed, in lower case, and without the empty ones. -/
def cleanHints (hints : List String) : List String :=
  (hints.filter fun h => !(trim h).isEmpty).map fun h => lower (trim h)

/-- The texts of a list, or the kind of the first item that is none. -/
def allTexts : List Value → Except SettingsError (List String)
  | [] => .ok []
  | .text s :: rest => (allTexts rest).map (s :: ·)
  | v :: _ => .error (.hintNotText v.kindName)

/-- The numeric hints of a value that is no text. -/
def hintsOfValue : Value → Except SettingsError (List String)
  | .list items => (allTexts items).map cleanHints
  | .object fields => .ok (cleanHints (fields.map (·.1)))
  | v => .error (.hintsNotList v.kindName)

/-- The numeric hints: a list, a text that holds a list as a document, or a text with
commas. -/
def hints : Value → Except SettingsError (Checked (List String))
  | .text s =>
      if (trim s).toList.head? = some '[' then
        match Document.read? s with
        | .ok v => (hintsOfValue v).map .ok
        | .error _ => .ok (Checked.fault (.rejected "invalid document") (.text s))
      else .ok (.ok (cleanHints (parts s)))
  | v => (hintsOfValue v).map .ok

/-! ## Sources -/

/-- The fields whose values in the environment are documents. -/
def documentFields : List String := ["cors_origins", "cors_allow_methods", "cors_allow_headers"]

/-- All that is given under a name, in the order given. Names are compared without regard to
case. -/
def givenUnder {α : Type} (given : List (String × α)) (name : String) : List α :=
  (given.filter fun (other, _) => lower other == name).map (·.2)

/-- The value of a field in the environment: of several variables that differ in case alone
the last one counts. -/
def valueIn? (env : Variables) (field : String) : Option String :=
  (givenUnder env ("rulecraft_" ++ field)).getLast?

/-- The value of a field in the environment, decoded if it is a document. A document that is
null counts as not given. -/
def fromEnvironment (env : Variables) (field : String) : Except SettingsError (Option Value) :=
  match valueIn? env field with
  | none => .ok none
  | some s =>
      if documentFields.contains field then
        match Document.read? s with
        | .error _ => .error (.undecodable field)
        | .ok .null => .ok none
        | .ok v => .ok (some v)
      else .ok (some (.text s))

/-- The values that are given for a list of fields; the caller's win, and of several that the
caller gives for one field the first. -/
def sources (env : Variables) (given : Fields) : List String → Except SettingsError Fields
  | [] => .ok []
  | field :: fields => do
      let fromEnv ← fromEnvironment env field
      let rest ← sources env given fields
      match (givenUnder given field).head?, fromEnv with
      | some v, _ => return (field, v) :: rest
      | none, some v => return (field, v) :: rest
      | none, none => return rest

/-- A setting that is checked if it is given and keeps its default otherwise. -/
def setting {α : Type} (raw : Fields) (field : String) (default : α) (check : Value → Checked α) :
    Checked α :=
  match raw.get? field with
  | none => .ok default
  | some v => (check v).inside field

/-- The settings of raw values, each checked on its own. -/
def checkFields (raw : Fields) (hints : Checked (List String)) : Checked Settings :=
  let d := Settings.default
  pure Settings.mk
    <*> setting raw "app_name" d.appName Checked.text
    <*> setting raw "app_version" d.appVersion Checked.text
    <*> setting raw "environment" d.environment (Checked.choice .oneOfExpected Environment.ofWord?)
    <*> setting raw "debug" d.debug truth
    <*> setting raw "api_prefix" d.apiPrefix Checked.text
    <*> setting raw "host" d.host Checked.text
    <*> setting raw "port" d.port integer
    <*> setting raw "workers" d.workers integer
    <*> setting raw "database_url" d.databaseUrl Checked.text
    <*> setting raw "db_pool_size" d.poolSize integer
    <*> setting raw "db_max_overflow" d.poolOverflow integer
    <*> setting raw "db_pool_timeout" d.poolTimeout integer
    <*> setting raw "db_pool_recycle" d.poolRecycle integer
    <*> setting raw "db_echo" d.databaseEcho truth
    <*> setting raw "cors_origins" d.corsOrigins origins
    <*> setting raw "cors_allow_credentials" d.corsCredentials truth
    <*> setting raw "cors_allow_methods" d.corsMethods Checked.texts
    <*> setting raw "cors_allow_headers" d.corsHeaders Checked.texts
    <*> setting raw "log_level" d.logLevel (Checked.choice .oneOfExpected LogLevel.ofSettingName?)
    <*> setting raw "log_format" d.logFormat (Checked.choice .oneOfExpected LogFormat.ofWord?)
    <*> hints.inside "numeric_attribute_hints"
    <*> setting raw "max_rule_length" d.maxRuleLength integer
    <*> setting raw "max_rule_depth" d.maxRuleDepth (integerFrom 1)

/-- The message about several workers on one SQLite database. It shows their number, unless that
cannot be written. -/
def workersMessage (workers : Int) : String :=
  if Number.isWritable workers then
    "SQLite does not support multiple worker processes. " ++
      s!"Requested {workers} workers, but SQLite requires workers=1. " ++
      "Either use --workers 1 or switch to PostgreSQL."
  else Number.ConversionError.tooLong.message

/-- An SQLite database serves one worker only. -/
def checkWorkers (s : Settings) : Checked Settings :=
  if 1 < s.workers ∧ s.usesSqlite = true then
    Checked.fault (.rejected (workersMessage s.workers)) .null
  else .ok s

/-- The settings of an environment and of a caller. -/
def read (env : Variables) (given : Fields) : Except SettingsError Settings := do
  let raw ← sources env given (Settings.default.toFields.map (·.1))
  let hints ← match raw.get? "numeric_attribute_hints" with
    | none => .ok (.ok Settings.default.numericHints)
    | some v => hints v
  ((checkFields raw hints).andThen checkWorkers).toExcept.mapError .invalid

end Settings

namespace SettingsError

/-- The message of an error that is no list of faults. -/
def message : SettingsError → String
  | .undecodable field =>
      s!"error parsing value for field \"{field}\" from source \"EnvSettingsSource\""
  | .hintNotText kind => s!"'{kind}' object has no attribute 'strip'"
  | .hintsNotList kind => s!"'{kind}' object is not iterable"
  | .invalid _ => ""

end SettingsError

end Eligibility

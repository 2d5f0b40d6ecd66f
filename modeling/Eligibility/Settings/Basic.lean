import Eligibility.Log.Event

/-!
# Settings

The settings of the program, their defaults, and the fields under which they are known.
-/

namespace Eligibility

/-- Where the program runs. -/
inductive Environment where
  | development
  | production
  | testing
deriving DecidableEq, Repr

/-- The word for an environment. -/
def Environment.word : Environment → String
  | .development => "development"
  | .production => "production"
  | .testing => "testing"

/-- The environment of a word. -/
def Environment.ofWord? (s : String) : Option Environment :=
  [development, production, testing].find? fun e => e.word == s

/-- How log lines are laid out. -/
inductive LogFormat where
  | json
  | console
deriving DecidableEq, Repr

/-- The word for a layout. -/
def LogFormat.word : LogFormat → String
  | .json => "json"
  | .console => "console"

/-- The layout of a word. -/
def LogFormat.ofWord? (s : String) : Option LogFormat :=
  [json, console].find? fun f => f.word == s

/-- The name of a log level in the settings. -/
def LogLevel.settingName : LogLevel → String
  | .debug => "DEBUG"
  | .info => "INFO"
  | .warning => "WARNING"
  | .error => "ERROR"
  | .critical => "CRITICAL"

/-- The log level of a name in the settings. -/
def LogLevel.ofSettingName? (s : String) : Option LogLevel :=
  [debug, info, warning, error, critical].find? fun level => level.settingName == s

/-- The settings of the program. -/
structure Settings where
  appName : String
  appVersion : String
  environment : Environment
  debug : Bool
  apiPrefix : String
  host : String
  port : Int
  workers : Int
  databaseUrl : String
  poolSize : Int
  poolOverflow : Int
  poolTimeout : Int
  poolRecycle : Int
  databaseEcho : Bool
  corsOrigins : List String
  corsCredentials : Bool
  corsMethods : List String
  corsHeaders : List String
  logLevel : LogLevel
  logFormat : LogFormat
  numericHints : List String
  maxRuleLength : Int
  maxRuleDepth : Int

namespace Settings

/-- The settings unless something else is asked for. -/
def default : Settings where
  appName := "RuleCraft"
  appVersion := "0.1.0"
  environment := .development
  debug := false
  apiPrefix := "/api/v1"
  host := "0.0.0.0"
  port := 8000
  workers := 1
  databaseUrl := "sqlite+aiosqlite:///./rc_data/rulecraft.db"
  poolSize := 5
  poolOverflow := 10
  poolTimeout := 30
  poolRecycle := 3600
  databaseEcho := false
  corsOrigins := ["http://localhost:3000", "http://localhost:8000"]
  corsCredentials := true
  corsMethods := ["*"]
  corsHeaders := ["*"]
  logLevel := .info
  logFormat := .json
  numericHints := ["age", "salary"]
  maxRuleLength := 4096
  maxRuleDepth := 64

/-- The program runs in production. -/
def isProduction (s : Settings) : Bool := s.environment == .production

/-- The program runs in development. -/
def isDevelopment (s : Settings) : Bool := s.environment == .development

/-- The store is an SQLite database. -/
def usesSqlite (s : Settings) : Bool := "sqlite".toList.isPrefixOf s.databaseUrl.toList

/-- The settings as fields. -/
def toFields (s : Settings) : Fields :=
  [("app_name", .text s.appName), ("app_version", .text s.appVersion),
    ("environment", .text s.environment.word), ("debug", .bool s.debug),
    ("api_prefix", .text s.apiPrefix), ("host", .text s.host), ("port", .ofInt s.port),
    ("workers", .ofInt s.workers), ("database_url", .text s.databaseUrl),
    ("db_pool_size", .ofInt s.poolSize), ("db_max_overflow", .ofInt s.poolOverflow),
    ("db_pool_timeout", .ofInt s.poolTimeout), ("db_pool_recycle", .ofInt s.poolRecycle),
    ("db_echo", .bool s.databaseEcho), ("cors_origins", .texts s.corsOrigins),
    ("cors_allow_credentials", .bool s.corsCredentials),
    ("cors_allow_methods", .texts s.corsMethods), ("cors_allow_headers", .texts s.corsHeaders),
    ("log_level", .text s.logLevel.settingName), ("log_format", .text s.logFormat.word),
    ("numeric_attribute_hints", .texts s.numericHints),
    ("max_rule_length", .ofInt s.maxRuleLength), ("max_rule_depth", .ofInt s.maxRuleDepth)]

end Settings

end Eligibility

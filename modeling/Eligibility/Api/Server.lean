import Eligibility.Api.Handler
import Eligibility.Api.Path
import Eligibility.Api.Route
import Eligibility.Document.Writer
import Eligibility.Settings.Reading

/-!
# The server

The server holds the settings and the committed tables. While it handles a request, the
request's identifier is bound to every log line, and the response carries it. A request that
fails unexpectedly is answered outside of this: its last line is not bound, and its response
carries no identifier.
-/

namespace Eligibility

/-- The server. -/
structure Server where
  settings : Settings
  tables : Tables
  /-- The tables have been created. -/
  hasTables : Bool
  /-- The engine of the database has been created. -/
  hasEngine : Bool
  /-- The factory of sessions has been created. -/
  hasSessions : Bool

/-- Why the server cannot start. -/
inductive StartError where
  | settings (e : SettingsError)
  /-- The interface is described, and the product has no name. -/
  | nameMissing
  /-- The interface is described, and the product has no version. -/
  | versionMissing
  | path (e : PathError)
  | logging (e : LogSetupError)
  | database

/-- The message of the error. -/
def StartError.message : StartError → String
  | .settings e => e.message
  | .nameMissing => "A title must be provided for OpenAPI, e.g.: 'My API'"
  | .versionMissing => "A version must be provided for OpenAPI, e.g.: '2.1.0'"
  | .path e => e.message
  | .logging e => e.message
  | .database => "Failed to connect to database"

/-- Fails unless the database can be reached. -/
def Settings.checkDatabase (s : Settings) : Except AddressError Unit :=
  (Address.ofText? s.databaseUrl).bind Address.check

/-- The interface can be described, which takes a name and a version. Only development
describes it. -/
def Settings.checkDescription (s : Settings) : Except StartError Unit := do
  if s.isDevelopment then
    if s.appName.isEmpty then throw .nameMissing
    if s.appVersion.isEmpty then throw .versionMissing

/-- How the rule book treats new rules under the settings. -/
def Settings.policy (s : Settings) : Policy :=
  ⟨s.numericHints, some s.maxRuleLength, s.maxRuleDepth.toNat⟩

namespace Server

/-- The server of an environment, before it is started. -/
def ofVariables (env : Variables) : Except StartError Server := do
  let settings ← (Settings.read env []).mapError .settings
  settings.checkDescription
  (Route.check settings).mapError .path
  return ⟨settings, .empty, false, false, false⟩

/-- Starts the server: logging first, then the database. The tables are created in development;
otherwise that is left to migrations. -/
def start (server : Server) (handlerPresent : Bool) : Except StartError Server := do
  let _ ← (LogOutput.ofSettings? server.settings handlerPresent).mapError .logging
  server.settings.checkDatabase.mapError fun _ => .database
  return { server with
    hasEngine := true
    hasTables := server.hasTables || server.settings.isDevelopment }

/-! ## Rows -/

/-- Why a row cannot be put into the table of rules. -/
inductive RowError where
  | unreachable (e : AddressError)
  | noTable (query : Query)
  | nameTaken (query : Query)

/-- The message of the error. -/
def RowError.message : RowError → String
  | .unreachable e => e.message
  | .noTable query => query.missingTable
  | .nameTaken query => query.nameTaken

/-- Puts a row of a name, a text and any document into the table of rules. -/
def insertRow (server : Server) (name text : String) (document : Value) :
    Except RowError Server := do
  server.settings.checkDatabase.mapError .unreachable
  let query := Query.insertion name text document.write
  if !server.hasTables then throw (.noTable query)
  let session := Session.ofTables server.tables
  match session.insertRule (.raw name text document) with
  | (false, _) => throw (.nameTaken query)
  | (true, session) => return { server with tables := session.current }

/-! ## Endpoints -/

/-- Notes that the engine is created, the first time it is needed. -/
def openEngine : Action Server Failure Unit := do
  if ← .read hasEngine then return ()
  .note .info "Database engine created" []
  .change fun server => { server with hasEngine := true }

/-- Gets a session ready, which takes a reachable database. -/
def openSession : Action Server Failure Unit := do
  match (← .read Server.settings).checkDatabase with
  | .error e => .fail (.unreachable e)
  | .ok () =>
      openEngine
      if ← .read hasSessions then return ()
      .note .debug "Database session factory created" []
      .change fun server => { server with hasSessions := true }

/-- Works on a session of its own and keeps what it committed. The table of the first query,
if there is one, has to exist. -/
def inSession (first : Option Query) (work : Action Session Failure Response) :
    Action Server Failure Response :=
  fun server =>
    match first.filter fun _ => !server.hasTables with
    | some query => ⟨.error (.noTable query), server, []⟩
    | none =>
        let reply := work (.ofTables server.tables)
        ⟨reply.result, { server with tables := reply.state.committed }, reply.log⟩

/-- Handles a request without a body on a session. -/
def handle (first : Query) (work : Action Session Failure Response) :
    Action Server Failure Response := do
  openSession
  inSession (some first) work

/-- The response that tells of faults. It shows the values that were given, so these have to
be such as can be written. -/
def refuse (faults : List Fault) : Action Server Failure Response :=
  if faults.all fun fault => fault.given.allFinite then return .plain 422 (.faults faults)
  else .fail .notWritable

/-- The response to a body that cannot be read. -/
def refuseBody : Request.BodyError → Response
  | .undecodable => .detail 400 "There was an error parsing the body"
  | .malformed => .plain 422 (.faults [⟨["body"], .malformedDocument, .null⟩])

/-- Handles a request with a body on a session. A body that cannot be read is refused before
a session is opened, and faults of its fields only after. -/
def handleBody {α : Type} (request : Request) (check : Request.Body → Checked α)
    (first : α → Option Query) (work : α → Action Session Failure Response) :
    Action Server Failure Response := do
  match request.content with
  | .error e => return refuseBody e
  | .ok body =>
      openSession
      match check body with
      | .faulty faults => refuse faults
      | .ok a => inSession (first a) (work a)

/-- A response with a document. -/
def document (status : Nat) (fields : List (String × String)) : Response :=
  .plain status (.document (.object (fields.map fun (key, s) => (key, .text s))))

/-- Tells whether the database answers. -/
def ready : Action Server Failure Response := do
  let settings ← .read Server.settings
  match settings.checkDatabase with
  | .ok () =>
      openEngine
      .note .debug "Database connection check successful" []
      return document 200 [("status", "ready"), ("service", "RuleCraft"),
        ("version", settings.appVersion), ("database", "connected")]
  | .error e =>
      .note .error "Database connection check failed" [("error", .text e.message)]
      return document 503 [("status", "not_ready"), ("service", "RuleCraft"),
        ("database", "disconnected")]

/-- A rule that is created is looked up first, unless its text is too long. -/
def createLooksUp (policy : Policy) (body : CreateRule) : Option Query :=
  match RuleBook.checkLength policy body.text with
  | .ok () => some (.named .rules body.name)
  | .error _ => none

/-- The name of the rule to be evaluated, and the record. A path that does not name the rule
leaves that to the query. -/
def namedEvaluation (request : Request) (named : Option String) (body : Request.Body) :
    Checked (String × EvaluateRule) :=
  let name : Checked String := match named with
    | some name => .ok name
    | none => (request.queryText Route.ruleParameter).inside "query"
  pure Prod.mk <*> name <*> body.checked EvaluateRule.ofFields

/-- The routes of the rules and attributes can be made. -/
def checkRoutes : Action Server Failure Unit := do
  .ofExcept ((Route.checkSpecific (← .read Server.settings)).mapError .noRoute)

/-- Answers a request at its endpoint. -/
def endpoint (request : Request) : Endpoint → Action Server Failure Response
  | .health => do
      let settings ← .read Server.settings
      return document 200 [("status", "healthy"), ("service", "RuleCraft"),
        ("version", settings.appVersion)]
  | .live => do
      let settings ← .read Server.settings
      return document 200 [("status", "alive"), ("service", "RuleCraft"),
        ("version", settings.appVersion)]
  | .ready => ready
  | .root => do
      let settings ← .read Server.settings
      return document 200 [("name", settings.appName), ("version", settings.appVersion),
        ("api_version", "v1")]
  | .page => return .plain 200 .other
  | .interface => do
      checkRoutes
      return .plain 200 .other
  | .createRule => do
      let policy := (← .read Server.settings).policy
      handleBody request (·.checked CreateRule.ofFields) (createLooksUp policy)
        (Handler.createRule policy)
  | .listRules => handle (.all .rules) Handler.listRules
  | .combineRules =>
      handleBody request (·.checked CombineRules.ofFields)
        (fun body => some (.anyOf .rules body.names)) Handler.combineRules
  | .evaluateDocument =>
      handleBody request (·.checked EvaluateDocument.ofFields) (fun _ => none)
        Handler.evaluateDocument
  | .evaluateRule named =>
      handleBody request (namedEvaluation request named)
        (fun (name, _) => some (.named .rules name))
        fun (name, body) => Handler.evaluateRule name body
  | .listAttributes => handle (.all .attributes) Handler.listAttributes
  | .createAttribute =>
      handleBody request (·.checked Attribute.ofFields)
        (fun a => some (.named .attributes a.name)) Handler.createAttribute

/-- Answers a request by where its path leads. The routes of the rules and attributes are made
when no general one leads to an endpoint. -/
def route (request : Request) : Action Server Failure Response := do
  let settings ← .read Server.settings
  let path := Path.ofTarget request.target
  if (Route.endpoint? (Route.general settings) request.method path).isNone then checkRoutes
  match Route.destination (Route.all settings) request.method path with
  | .endpoint e => endpoint request e
  | .wrongMethod => return .detail 405 "Method Not Allowed"
  | .redirect => return .plain 307 .other
  | .nowhere => return .detail 404 "Not Found"

/-- Tells whether leave is given to use a method, if the headers of the answer can be written. -/
def giveLeave (request : Request) (method : String) : Action Server Failure Response := do
  let settings ← .read Server.settings
  .ofExcept (settings.checkLeave.mapError .noHeader)
  return .plain (if settings.allows request method then 200 else 400) .other

/-- Answers a request: the settings tell whether leave is given, and the routes do the rest. -/
def dispatch (request : Request) : Action Server Failure Response :=
  match request.askedMethod? with
  | some method => giveLeave request method
  | none => route request

/-! ## Requests -/

/-- What a request leads to: the response, the log lines, and the server afterwards. -/
structure Exchange where
  response : Response
  lines : List LogLine
  server : Server

/-- The identifier of a request: the one it carries, or a generated one. -/
def correlationOf (request : Request) : CorrelationId :=
  match request.header? "X-Correlation-ID" with
  | some id => .given (.text id)
  | none => .generated

/-- The method and the path of a request, as log fields. -/
def requestFields (request : Request) : Fields :=
  [("method", .text request.method), ("path", .text (Path.ofTarget request.target))]

/-- The event that a request is taken up. -/
def startedEvent (request : Request) : LogEvent :=
  ⟨.info, "Request started", requestFields request⟩

/-- The event that a request is answered. -/
def completedEvent (request : Request) (status : Nat) : LogEvent :=
  ⟨.info, "Request completed", requestFields request ++ [("status_code", .ofNat status)]⟩

/-- The event that a request failed unexpectedly. -/
def failedEvent (request : Request) (e : Failure) : LogEvent :=
  ⟨.error, "Unhandled exception",
    [("path", .text request.target), ("method", .text request.method),
      ("error", .text e.message)]⟩

/-- The response to a request that failed unexpectedly. Only debugging shows why. -/
def failedResponse (settings : Settings) (e : Failure) : Response :=
  document 500 [("error", "Internal server error"),
    ("detail", if settings.debug then e.message else "An unexpected error occurred")]

/-- Handles a request. -/
def receive (server : Server) (request : Request) : Exchange :=
  let id := correlationOf request
  let output : LogOutput := ⟨server.settings.logLevel, LogOutput.formatOf server.settings⟩
  let reply := dispatch request server
  let bound := output.lines (some id) (startedEvent request :: reply.log)
  match reply.result with
  | .ok response =>
      ⟨{ response with correlation := some id },
        bound ++ output.lines (some id) [completedEvent request response.status], reply.state⟩
  | .error e =>
      ⟨failedResponse server.settings e,
        bound ++ output.lines none [failedEvent request e], reply.state⟩

end Server

end Eligibility

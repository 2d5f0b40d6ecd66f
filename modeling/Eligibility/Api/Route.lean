import Eligibility.Api.Template
import Eligibility.Settings.Basic

/-!
# Routes

Each endpoint answers to one method on the paths of one template. A path that is known under
another method is not allowed; one that is known with or without a slash at its end is redirected.
-/

namespace Eligibility

/-- What answers a request. -/
inductive Endpoint where
  | health
  | ready
  | live
  | root
  | page
  | interface
  | createRule
  | listRules
  | combineRules
  | evaluateDocument
  | evaluateRule (name : Option String)
  | listAttributes
  | createAttribute
deriving DecidableEq, Repr

/-- The methods and the paths of an endpoint, which may depend on parts of the path. -/
structure Route where
  methods : List String
  template : Template
  endpoint : Parts → Endpoint

namespace Route

/-- An endpoint that does not depend on the parts of its path. -/
def fixed (methods : List String) (path : String) (endpoint : Endpoint) : Route :=
  ⟨methods, Template.ofText path, fun _ => endpoint⟩

/-- The name of the parameter that names a rule. -/
def ruleParameter : String := "rule_name"

/-- The path on which the rule that a segment names is evaluated. -/
def evaluationPath (rules : String) : String := rules ++ "/\x7b" ++ ruleParameter ++ "\x7d/evaluate"

/-- The names that a path has in braces. -/
def bracedNames (path : String) : List (List Char) :=
  Template.bracedTexts 0 (Template.ofText path).withoutKinds

/-- The evaluation of the rule that a segment of the path names. An opening brace in front that
is not closed hides the parameter; then the path does not name the rule. -/
def evaluation (rules : String) : Route :=
  let path := evaluationPath rules
  ⟨["POST"], Template.ofText path, fun parts =>
    .evaluateRule <|
      if (bracedNames path).contains ruleParameter.toList then List.lookup ruleParameter parts
      else none⟩

/-- The pages about the interface, which only development has. -/
def pages (s : Settings) : List Route :=
  if s.isDevelopment then
    fixed ["GET", "HEAD"] "/openapi.json" .interface ::
      ["/docs", "/docs/oauth2-redirect", "/redoc"].map fun path =>
        fixed ["GET", "HEAD"] path .page
  else []

/-- The path of the rules. -/
def rulesPath (s : Settings) : String := s.apiPrefix ++ "/rules"

/-- The path of the attributes. -/
def attributesPath (s : Settings) : String := s.apiPrefix ++ "/attributes"

/-- The routes that do not depend on the common beginning of the others. -/
def general (s : Settings) : List Route :=
  pages s ++
    [fixed ["GET"] "/health" .health,
      fixed ["GET"] "/ready" .ready,
      fixed ["GET"] "/live" .live]

/-- The routes of the rules and attributes. -/
def specific (s : Settings) : List Route :=
  let rules := rulesPath s
  let attributes := attributesPath s
  [fixed ["POST"] rules .createRule,
    fixed ["GET"] rules .listRules,
    fixed ["POST"] (rules ++ "/combine") .combineRules,
    fixed ["POST"] (rules ++ "/evaluate-ast") .evaluateDocument,
    evaluation rules,
    fixed ["GET"] attributes .listAttributes,
    fixed ["POST"] attributes .createAttribute,
    fixed ["GET"] s.apiPrefix .root]

/-- All routes, in the order in which they are tried. -/
def all (s : Settings) : List Route := general s ++ specific s

/-- The name under which handlers take the body of a request. -/
def bodyParameter : String := "request"

/-- The common beginning of the paths can be one. -/
def check (s : Settings) : Except PathError Unit := do
  if !s.apiPrefix.isEmpty && s.apiPrefix.toList.head? != some '/' then throw .noSlash
  Template.check s.apiPrefix

/-- The routes of the rules and attributes can be made. That shows only when one of them is
looked for. -/
def checkSpecific (s : Settings) : Except PathError Unit := do
  if (bracedNames (rulesPath s)).contains bodyParameter.toList then throw .bodyName
  Template.check (evaluationPath (rulesPath s))

/-- A path without the line break that may end it. -/
def dropLineBreak (cs : List Char) : List Char :=
  if cs.getLast? = some '\n' then cs.dropLast else cs

/-- The endpoint of a path, whatever the method. -/
def matches? (route : Route) (cs : List Char) : Option Endpoint :=
  let parts := (route.template.parts? cs).orElse fun _ => route.template.parts? (dropLineBreak cs)
  parts.map route.endpoint

/-- Where a request leads. -/
inductive Destination where
  | endpoint (e : Endpoint)
  | wrongMethod
  | redirect
  | nowhere
deriving DecidableEq, Repr

/-- A path with a slash at its end, or without any. -/
def otherSlash (cs : List Char) : List Char :=
  if cs.getLast? = some '/' then (cs.reverse.dropWhile (· == '/')).reverse else cs ++ ['/']

/-- The endpoints that a path is known for, with the methods of each. -/
def known (routes : List Route) (path : String) : List (List String × Endpoint) :=
  routes.filterMap fun route => (route.matches? path.toList).map fun e => (route.methods, e)

/-- The endpoint of a method and a path. -/
def endpoint? (routes : List Route) (method path : String) : Option Endpoint :=
  ((known routes path).find? fun (methods, _) => methods.contains method).map (·.2)

/-- Where a method and a path lead. -/
def destination (routes : List Route) (method path : String) : Destination :=
  match endpoint? routes method path with
  | some e => .endpoint e
  | none =>
      let cs := path.toList
      if !(known routes path).isEmpty then .wrongMethod
      else if cs ≠ ['/'] ∧ (routes.any fun route => (route.matches? (otherSlash cs)).isSome) then
        .redirect
      else .nowhere

end Route

end Eligibility

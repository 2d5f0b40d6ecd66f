import Eligibility.Api.Server
import Eligibility.Proofs.RuleBook.Creating

/-!
# What requests do to the server

A request reaches the endpoint that its path leads to (`Request.reached?`), and every other request
is answered without looking at the tables. At an endpoint a session is opened, which at most notes
that the engine and the factory of sessions are there (`Server.opened`), and what the session has
committed in the end is kept. Only two endpoints commit anything, and one of these registers
attributes; so all requests but those that create rules leave the table of rules alone
(`keeps_endpoint`, `shown_receive`).
-/

namespace Eligibility

/-- The routes that the path of a request may need can be made: none, if one of the general ones
leads to an endpoint. -/
def Request.checkRoutes (settings : Settings) (request : Request) : Except PathError Unit :=
  let path := Path.ofTarget request.target
  if (Route.endpoint? (Route.general settings) request.method path).isNone then
    Route.checkSpecific settings
  else .ok ()

/-- The endpoint that a request reaches, unless it asks for leave. -/
def Request.reached? (settings : Settings) (request : Request) : Option Endpoint :=
  let path := Path.ofTarget request.target
  match request.askedMethod?, request.checkRoutes settings,
    Route.destination (Route.all settings) request.method path with
  | none, .ok (), .endpoint e => some e
  | _, _, _ => none

namespace Handler

variable {γ : Type}

/-! ## What handlers leave alone -/

theorem ends_respond (status : Nat) (v : Value) (s : Session) :
    (respond status v).Ends s
      (if v.allFinite then .ok (.plain status (.document v)) else .error .notWritable) s := by
  unfold respond
  split
  · exact ⟨_, rfl⟩
  · exact ⟨_, rfl⟩

theorem keeps_respond (view : Session → γ) (status : Nat) (v : Value) :
    (respond status v).Keeps view := by
  intro s
  rw [(ends_respond status v s).state_eq]

theorem ends_respondAttributes (status : Nat) (attributes : List Attribute) (v : Value)
    (s : Session) :
    (respondAttributes status attributes v).Ends s
      (if attributes.all isShallow then .ok (.plain status (.document v.portable))
        else .error .tooDeep) s := by
  unfold respondAttributes
  split
  · exact ⟨_, rfl⟩
  · exact ⟨_, rfl⟩

theorem keeps_respondAttributes (view : Session → γ) (status : Nat) (attributes : List Attribute)
    (v : Value) : (respondAttributes status attributes v).Keeps view := by
  intro s
  rw [(ends_respondAttributes status attributes v s).state_eq]

theorem keeps_listRules (view : Session → γ) : listRules.Keeps view := by
  have hlist : (Session.listRules.mapError Failure.rule).Keeps view := Session.keeps_listRules view
  exact Action.keeps_bind hlist fun _ => keeps_respond view _ _

theorem keeps_combineRules (view : Session → γ) (body : CombineRules) :
    (combineRules body).Keeps view := by
  refine Action.keeps_bind (RuleBook.keeps_combine view _ _) ?_
  intro result
  split
  · exact keeps_respond view _ _
  · exact keeps_respond view _ _
  · exact fun _ => rfl

theorem keeps_evaluateDocument (view : Session → γ) (body : EvaluateDocument) :
    (evaluateDocument body).Keeps view :=
  Action.keeps_bind (fun _ => rfl) fun _ => keeps_respond view _ _

theorem keeps_evaluateRule (view : Session → γ) (name : String) (body : EvaluateRule) :
    (evaluateRule name body).Keeps view := by
  refine Action.keeps_bind (RuleBook.keeps_evaluate view _ _) ?_
  intro result
  split
  · exact keeps_respond view _ _
  · exact keeps_respond view _ _
  · exact fun _ => rfl

theorem keeps_listAttributes (view : Session → γ) : listAttributes.Keeps view :=
  Action.keeps_bind (fun _ => rfl) fun _ => keeps_respondAttributes view _ _ _

/-- Working on a session commits no rules. -/
def KeepsRules (work : Action Session Failure Response) : Prop :=
  ∀ tables, (work (.ofTables tables)).state.committed.rules = tables.rules

theorem KeepsRules.of_keeps {work : Action Session Failure Response}
    (h : work.Keeps fun s : Session => s.committed.rules) : KeepsRules work :=
  fun tables => h (.ofTables tables)

/-- Registering an attribute commits it, and no rule with it. -/
theorem keepsRules_createAttribute (a : Attribute) : KeepsRules (createAttribute a) := by
  intro tables
  have hread : (Action.read fun s : Session => s.attribute? a.name : Action Session Failure _).Ends
      (.ofTables tables) (.ok ((Session.ofTables tables).attribute? a.name)) (.ofTables tables) :=
    ⟨_, rfl⟩
  cases hfound : (Session.ofTables tables).attribute? a.name with
  | some known =>
      rw [hfound] at hread
      have hends : (createAttribute a).Ends (.ofTables tables) _ (.ofTables tables) :=
        hread.bind ⟨_, rfl⟩
      rw [hends.state_eq]
      rfl
  | none =>
      rw [hfound] at hread
      have hstore : (Session.storeAttributes [a]).Ends (.ofTables tables) (.ok ()) _ :=
        Session.ends_storeAttributes (Session.insertAttributes_of_fresh
          (fresh_singleton (Session.attribute?_eq_none_iff.mp hfound)))
      have hends : (createAttribute a).Ends (.ofTables tables) _
          ((Session.ofTables tables).add [] [a]).commit :=
        hread.bind (hstore.attempt.bind (.bind ⟨_, rfl⟩ (.bind ⟨_, rfl⟩
          (ends_respondAttributes 201 [a] (.ofAttribute a) _))))
      rw [hends.state_eq]
      exact List.append_nil _

end Handler

namespace Server

variable {server server' : Server} {request : Request} {e : Endpoint}
  {result : Except Failure Response}

/-! ## Exchanges -/

/-- The response that comes of a result. -/
def answer (settings : Settings) : Except Failure Response → Response
  | .ok response => response
  | .error e => failedResponse settings e

/-- The exchange of a request, but for its log lines and its identifier. -/
theorem receive_of_ends (h : (dispatch request).Ends server result server') :
    ∃ lines correlation, server.receive request =
      ⟨{ answer server.settings result with correlation := correlation }, lines, server'⟩ := by
  obtain ⟨log, hrun⟩ := h
  unfold receive
  rw [hrun]
  cases result with
  | ok response => exact ⟨_, _, rfl⟩
  | error e => exact ⟨_, _, rfl⟩

theorem server_receive (server : Server) (request : Request) :
    (server.receive request).server = (dispatch request server).state := by
  have hends : (dispatch request).Ends server _ (dispatch request server).state := ⟨_, rfl⟩
  obtain ⟨lines, correlation, heq⟩ := receive_of_ends hends
  rw [heq]

/-! ## Routes -/

theorem keeps_giveLeave (request : Request) (method : String) :
    (giveLeave request method).Keeps id :=
  Action.keeps_bind (fun _ => rfl) fun _ => Action.keeps_bind (fun _ => rfl) fun _ _ => rfl

theorem ends_checkRoutes (server : Server) :
    checkRoutes.Ends server ((Route.checkSpecific server.settings).mapError .noRoute) server :=
  Action.Ends.bind ⟨_, rfl⟩ ⟨_, rfl⟩

section Routes

variable {next : Unit → Action Server Failure Response}

theorem ends_routes_of_ok (h : request.checkRoutes server.settings = .ok ())
    (hnext : (next ()).Ends server result server') :
    Action.Ends
      (if (Route.endpoint? (Route.general server.settings) request.method
        (Path.ofTarget request.target)).isNone then checkRoutes >>= next else next ())
      server result server' := by
  unfold Request.checkRoutes at h
  split
  · rename_i hgeneral
    rw [if_pos hgeneral] at h
    have hmade := ends_checkRoutes server
    rw [h] at hmade
    exact hmade.bind hnext
  · exact hnext

theorem ends_routes_of_error {e : PathError} (h : request.checkRoutes server.settings = .error e)
    (next : Unit → Action Server Failure Response) :
    Action.Ends
      (if (Route.endpoint? (Route.general server.settings) request.method
        (Path.ofTarget request.target)).isNone then checkRoutes >>= next else next ())
      server (.error (.noRoute e)) server := by
  unfold Request.checkRoutes at h
  split
  · rename_i hgeneral
    rw [if_pos hgeneral] at h
    have hfailed := ends_checkRoutes server
    rw [h] at hfailed
    exact hfailed.bind_error next
  · rename_i hgeneral
    rw [if_neg hgeneral] at h
    exact nomatch h

end Routes

/-- A request is answered at the endpoint that it reaches, or the server stays as it is. -/
theorem dispatch_cases (server : Server) (request : Request) :
    (∃ e, request.reached? server.settings = some e ∧ ∀ {result server'},
      (endpoint request e).Ends server result server' →
        (dispatch request).Ends server result server') ∨
    request.reached? server.settings = none ∧ (dispatch request server).state = server := by
  unfold dispatch Request.reached?
  cases request.askedMethod? with
  | some method => exact .inr ⟨rfl, keeps_giveLeave request method server⟩
  | none =>
      show (∃ e, _ ∧ ∀ {result server'}, _ → (route request).Ends server result server') ∨
        _ ∧ (route request server).state = server
      cases hroutes : request.checkRoutes server.settings with
      | error e =>
          right
          exact ⟨rfl, Action.Ends.state_eq (.bind ⟨_, rfl⟩ (ends_routes_of_error hroutes _))⟩
      | ok _ =>
          cases hleads : Route.destination (Route.all server.settings) request.method
            (Path.ofTarget request.target) with
          | endpoint e =>
              left
              refine ⟨e, by simp [hleads], ?_⟩
              intro result server' h
              refine .bind ⟨_, rfl⟩ (ends_routes_of_ok hroutes ?_)
              rw [hleads]
              exact h
          | _ =>
              right
              have hstate : (route request server).state = _ := Action.Ends.state_eq
                (.bind ⟨_, rfl⟩ (ends_routes_of_ok hroutes ⟨_, rfl⟩))
              rw [hleads] at hstate
              exact ⟨by simp [hleads], hstate⟩

theorem ends_dispatch (hreached : request.reached? server.settings = some e)
    (h : (endpoint request e).Ends server result server') :
    (dispatch request).Ends server result server' := by
  rcases dispatch_cases server request with ⟨e', hreached', hends⟩ | ⟨hnowhere, -⟩
  · obtain rfl := Option.some.inj (hreached'.symm.trans hreached)
    exact hends h
  · rw [hreached] at hnowhere
    exact nomatch hnowhere

/-! ## Sessions -/

/-- The server with other notes on whether the engine and the factory of sessions are there. -/
def opened (server : Server) (engine sessions : Bool) : Server :=
  { server with hasEngine := engine, hasSessions := sessions }

theorem ends_openEngine (server : Server) :
    openEngine.Ends server (.ok ()) (server.opened true server.hasSessions) := by
  refine .bind ⟨_, rfl⟩ ?_
  cases hengine : server.hasEngine with
  | true =>
      have hsame : server.opened true server.hasSessions = server := by
        rw [opened, ← hengine]
      rw [hsame]
      exact ⟨_, rfl⟩
  | false => exact .bind ⟨_, rfl⟩ ⟨_, rfl⟩

/-- A session can be opened if the database can be reached. -/
theorem ends_openSession (server : Server) :
    ∃ engine sessions, openSession.Ends server
      (server.settings.checkDatabase.mapError .unreachable) (server.opened engine sessions) := by
  cases hdatabase : server.settings.checkDatabase with
  | error e =>
      refine ⟨server.hasEngine, server.hasSessions, .bind ⟨_, rfl⟩ ?_⟩
      rw [hdatabase]
      exact ⟨_, rfl⟩
  | ok _ =>
      refine ⟨true, true, .bind ⟨_, rfl⟩ ?_⟩
      rw [hdatabase]
      refine (ends_openEngine server).bind (.bind ⟨_, rfl⟩ ?_)
      show Action.Ends (if server.hasSessions then _ else _) _ _ _
      cases hsessions : server.hasSessions with
      | true => exact ⟨_, rfl⟩
      | false => exact .bind ⟨_, rfl⟩ ⟨_, rfl⟩

theorem ends_openSession_of_ok (h : server.settings.checkDatabase = .ok ()) :
    ∃ engine sessions, openSession.Ends server (.ok ()) (server.opened engine sessions) := by
  obtain ⟨engine, sessions, hopen⟩ := ends_openSession server
  rw [h] at hopen
  exact ⟨engine, sessions, hopen⟩

/-- The server with what a session has committed. -/
def keep (server : Server) (s : Session) : Server := { server with tables := s.committed }

section Work

variable {first : Option Query} {work : Action Session Failure Response}

/-- If the table of the first query is there, a session is worked on. -/
theorem ends_inSession (h : first = none ∨ server.hasTables = true) :
    (inSession first work).Ends server (work (.ofTables server.tables)).result
      (server.keep (work (.ofTables server.tables)).state) := by
  have hfound : (first.filter fun _ => !server.hasTables) = none := by
    rcases h with rfl | htables
    · rfl
    · simp [htables]
  refine ⟨(work (.ofTables server.tables)).log, ?_⟩
  simp only [inSession, hfound]
  rfl

theorem inSession_cases (server : Server) (first : Option Query)
    (work : Action Session Failure Response) :
    (∃ e, (inSession first work).Ends server (.error e) server) ∨
    (first = none ∨ server.hasTables = true) ∧
      (inSession first work).Ends server (work (.ofTables server.tables)).result
        (server.keep (work (.ofTables server.tables)).state) := by
  cases first with
  | none => exact .inr ⟨.inl rfl, ends_inSession (.inl rfl)⟩
  | some query =>
      cases htables : server.hasTables with
      | true => exact .inr ⟨.inr rfl, ends_inSession (.inr htables)⟩
      | false =>
          left
          refine ⟨.noTable query, [], ?_⟩
          simp only [inSession, htables]
          rfl

end Work

/-- The request has failed, or it is refused: its body cannot be read, its name is taken, or its
fields are faulty. -/
def IsRefusal (result : Except Failure Response) : Prop :=
  ∀ response, result = .ok response → response.status ∈ [400, 409, 422]

theorem isRefusal_error (e : Failure) : IsRefusal (.error e) := fun _ h => nomatch h

theorem isRefusal_ok {response : Response} (h : response.status ∈ [400, 409, 422]) :
    IsRefusal (.ok response) := by
  intro other hother
  cases hother
  exact h

theorem status_of_isRefusal (h : IsRefusal result) (settings : Settings) :
    (answer settings result).status ∈ [400, 409, 422, 500] := by
  cases result with
  | ok response => exact List.mem_append_left [500] (h response rfl)
  | error e => simp [answer, failedResponse, document, Response.plain]

theorem ends_refuse (faults : List Fault) (server : Server) :
    ∃ result, IsRefusal result ∧ (refuse faults).Ends server result server := by
  unfold refuse
  split
  · exact ⟨_, isRefusal_ok (by simp [Response.plain]), _, rfl⟩
  · exact ⟨_, isRefusal_error _, _, rfl⟩

/-- A request with a body is refused, or the database is there and the request is worked on with
what its body was checked to be. -/
theorem handleBody_cases {α : Type} (server : Server) (request : Request)
    (check : Request.Body → Checked α) (first : α → Option Query)
    (work : α → Action Session Failure Response) :
    ∃ engine sessions,
      (∃ result, IsRefusal result ∧ (handleBody request check first work).Ends server result
        (server.opened engine sessions)) ∨
      server.settings.checkDatabase = .ok () ∧ ∃ body a,
        request.content = .ok body ∧ check body = .ok a ∧
        (first a = none ∨ server.hasTables = true) ∧
        (handleBody request check first work).Ends server (work a (.ofTables server.tables)).result
          ((server.opened engine sessions).keep (work a (.ofTables server.tables)).state) := by
  unfold handleBody
  cases hcontent : request.content with
  | error e =>
      refine ⟨server.hasEngine, server.hasSessions, .inl ⟨.ok (refuseBody e), ?_, _, rfl⟩⟩
      cases e <;> exact isRefusal_ok (by simp [refuseBody, Response.detail, Response.plain])
  | ok body =>
      obtain ⟨engine, sessions, hopen⟩ := ends_openSession server
      refine ⟨engine, sessions, ?_⟩
      cases hdatabase : server.settings.checkDatabase with
      | error e =>
          rw [hdatabase] at hopen
          exact .inl ⟨_, isRefusal_error _, hopen.bind_error _⟩
      | ok _ =>
          rw [hdatabase] at hopen
          cases hcheck : check body with
          | faulty faults =>
              left
              obtain ⟨result, hresult, hends⟩ := ends_refuse faults (server.opened engine sessions)
              refine ⟨result, hresult, hopen.bind ?_⟩
              rw [hcheck]
              exact hends
          | ok a =>
              rcases inSession_cases (server.opened engine sessions) (first a) (work a) with
                ⟨e, hends⟩ | ⟨htables, hends⟩
              · left
                refine ⟨_, isRefusal_error e, hopen.bind ?_⟩
                rw [hcheck]
                exact hends
              · right
                refine ⟨rfl, body, a, rfl, hcheck, htables, hopen.bind ?_⟩
                rw [hcheck]
                exact hends

/-- A request with a body that is what it has to be is worked on if the database is there. -/
theorem ends_handleBody {α : Type} {body : Request.Body} {a : α}
    (check : Request.Body → Checked α) (first : α → Option Query)
    (work : α → Action Session Failure Response)
    (hdatabase : server.settings.checkDatabase = .ok ()) (htables : server.hasTables = true)
    (hcontent : request.content = .ok body) (hcheck : check body = .ok a) :
    ∃ engine sessions,
      (handleBody request check first work).Ends server (work a (.ofTables server.tables)).result
        ((server.opened engine sessions).keep (work a (.ofTables server.tables)).state) := by
  obtain ⟨engine, sessions, hopen⟩ := ends_openSession_of_ok hdatabase
  refine ⟨engine, sessions, ?_⟩
  unfold handleBody
  rw [hcontent]
  refine hopen.bind ?_
  rw [hcheck]
  exact ends_inSession (.inr htables)

/-- A request without a body is worked on if the database is there. -/
theorem ends_handle (first : Query) (work : Action Session Failure Response)
    (hdatabase : server.settings.checkDatabase = .ok ()) (htables : server.hasTables = true) :
    ∃ engine sessions,
      (handle first work).Ends server (work (.ofTables server.tables)).result
        ((server.opened engine sessions).keep (work (.ofTables server.tables)).state) := by
  obtain ⟨engine, sessions, hopen⟩ := ends_openSession_of_ok hdatabase
  exact ⟨engine, sessions, hopen.bind (ends_inSession (.inr htables))⟩

/-- A request without a body fails, or it is worked on. -/
theorem handle_cases (server : Server) (first : Query) (work : Action Session Failure Response) :
    ∃ engine sessions,
      (∃ e, (handle first work).Ends server (.error e) (server.opened engine sessions)) ∨
      (handle first work).Ends server (work (.ofTables server.tables)).result
        ((server.opened engine sessions).keep (work (.ofTables server.tables)).state) := by
  obtain ⟨engine, sessions, hopen⟩ := ends_openSession server
  refine ⟨engine, sessions, ?_⟩
  cases hdatabase : server.settings.checkDatabase with
  | error e =>
      rw [hdatabase] at hopen
      exact .inl ⟨_, hopen.bind_error _⟩
  | ok _ =>
      rw [hdatabase] at hopen
      rcases inSession_cases (server.opened engine sessions) (some first) work with
        ⟨e, hends⟩ | ⟨-, hends⟩
      · exact .inl ⟨e, hopen.bind hends⟩
      · exact .inr (hopen.bind hends)

/-! ## What requests leave alone -/

/-- What a listing of the rules depends on. -/
def shown (server : Server) : Settings × Bool × List RuleRow :=
  (server.settings, server.hasTables, server.tables.rules)

theorem shown_keep {work : Action Session Failure Response} (h : Handler.KeepsRules work)
    {engine sessions : Bool} :
    ((server.opened engine sessions).keep (work (.ofTables server.tables)).state).shown =
      server.shown := by
  show (_, _, (work (.ofTables server.tables)).state.committed.rules) = _
  rw [h server.tables]
  rfl

theorem keeps_handleBody {α : Type} {check : Request.Body → Checked α} {first : α → Option Query}
    {work : α → Action Session Failure Response}
    (h : ∀ a, Handler.KeepsRules (work a)) :
    (handleBody request check first work).Keeps shown := by
  intro server
  obtain ⟨engine, sessions, ⟨result, -, hends⟩ | ⟨-, body, a, -, -, -, hends⟩⟩ :=
    handleBody_cases server request check first work
  · rw [hends.state_eq]
    rfl
  · rw [hends.state_eq]
    exact shown_keep (h a)

theorem keeps_handle {first : Query} {work : Action Session Failure Response}
    (h : Handler.KeepsRules work) :
    (handle first work).Keeps shown := by
  intro server
  obtain ⟨engine, sessions, ⟨e, hends⟩ | hends⟩ := handle_cases server first work
  · rw [hends.state_eq]
    rfl
  · rw [hends.state_eq]
    exact shown_keep h

theorem keeps_openEngine : openEngine.Keeps shown := by
  intro server
  rw [(ends_openEngine server).state_eq]
  rfl

theorem keeps_ready : ready.Keeps shown := by
  refine Action.keeps_bind (fun _ => rfl) ?_
  intro settings
  split
  · refine Action.keeps_bind keeps_openEngine fun _ => ?_
    exact Action.keeps_bind (fun _ => rfl) fun _ _ => rfl
  · exact Action.keeps_bind (fun _ => rfl) fun _ _ => rfl

/-- Every endpoint but the one that creates rules leaves the table of rules alone. -/
theorem keeps_endpoint (request : Request) (h : e ≠ .createRule) :
    (endpoint request e).Keeps shown := by
  cases e with
  | createRule => exact absurd rfl h
  | ready => exact keeps_ready
  | interface =>
      refine Action.keeps_bind ?_ fun _ _ => rfl
      intro server
      rw [(ends_checkRoutes server).state_eq]
  | listRules => exact keeps_handle (.of_keeps (Handler.keeps_listRules _))
  | combineRules => exact keeps_handleBody fun _ => .of_keeps (Handler.keeps_combineRules _ _)
  | evaluateDocument =>
      exact keeps_handleBody fun _ => .of_keeps (Handler.keeps_evaluateDocument _ _)
  | evaluateRule named =>
      exact keeps_handleBody fun _ => .of_keeps (Handler.keeps_evaluateRule _ _ _)
  | listAttributes => exact keeps_handle (.of_keeps (Handler.keeps_listAttributes _))
  | createAttribute => exact keeps_handleBody Handler.keepsRules_createAttribute
  -- what is left only looks at the settings
  | _ => exact fun _ => rfl

/-- No request but one that creates rules changes what a listing of the rules depends on. -/
theorem shown_receive (h : request.reached? server.settings ≠ some .createRule) :
    (server.receive request).server.shown = server.shown := by
  rw [server_receive]
  rcases dispatch_cases server request with ⟨e, hreached, hends⟩ | ⟨-, hstate⟩
  · have hkeeps := keeps_endpoint request (e := e) fun he => h (he ▸ hreached)
    rw [(hends ⟨_, rfl⟩).state_eq]
    exact hkeeps server
  · rw [hstate]

end Server

end Eligibility

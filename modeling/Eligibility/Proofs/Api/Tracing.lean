import Eligibility.Proofs.Api.Events
import Eligibility.Proofs.Api.FrontEnds
import Eligibility.Proofs.Api.History

/-!
# Tracing requests

While a request is handled, its identifier is bound. Here a request is a program that logs
(`Server.logSteps`): it binds the identifier, writes its events and clears the context again.
Whatever is bound before, the lines of this program are those of the request, and nothing is bound
behind it (`run_logSteps`); so the same holds for requests one after the other (`run_logHistory`).

A request that fails unexpectedly clears the context before the failure is noted. So the line about
the failure is not bound, and the response carries no identifier; all other requests can be traced
from their first line to their response (`traced_iff`).
-/

namespace Eligibility.Server

/-- All lines have an identifier, and the response carries it. -/
structure Exchange.IsTraced (e : Exchange) (id : CorrelationId) : Prop where
  lines : ∀ line ∈ e.lines, line.correlation = id
  response : e.response.correlation = some id

/-- Where the lines of the server go. -/
def output (server : Server) : LogOutput :=
  ⟨server.settings.logLevel, LogOutput.formatOf server.settings⟩

/-- The step that binds the identifier of a request. -/
def bindStep (request : Request) : LogStep :=
  match request.header? "X-Correlation-ID" with
  | some id => .bind (.text id)
  | none => .bindGenerated

/-- What is logged at the end of a request, and when the context is cleared. -/
def lastSteps (request : Request) : Except Failure Response → List LogStep
  | .ok response => [.write (completedEvent request response.status), .clear]
  | .error e => [.clear, .write (failedEvent request e)]

/-- The events of a request up to its end. -/
def boundEvents (server : Server) (request : Request) : List LogEvent :=
  startedEvent request :: (dispatch request server).log

/-- What a request does to the log. -/
def logSteps (server : Server) (request : Request) : List LogStep :=
  bindStep request :: (server.boundEvents request).map .write ++
    lastSteps request (dispatch request server).result

/-- What some requests do to the log, one after the other. -/
def logHistory (server : Server) : List Request → List LogStep
  | [] => []
  | request :: requests =>
      server.logSteps request ++ (server.receive request).server.logHistory requests

variable {server : Server} {request : Request}

/-! ## One request -/

theorem isOrdinary_started (request : Request) : (startedEvent request).IsOrdinary := by
  simp [LogEvent.IsOrdinary, startedEvent, requestFields]

theorem isOrdinary_completed (request : Request) (status : Nat) :
    (completedEvent request status).IsOrdinary := by
  simp [LogEvent.IsOrdinary, completedEvent, requestFields]

theorem isOrdinary_failed (request : Request) (e : Failure) :
    (failedEvent request e).IsOrdinary := by
  simp [LogEvent.IsOrdinary, failedEvent]

theorem isOrdinary_boundEvents (server : Server) (request : Request) :
    ∀ e ∈ server.boundEvents request, e.IsOrdinary :=
  List.forall_mem_cons.mpr ⟨isOrdinary_started request, logs_dispatch request server⟩

theorem receive_of_ok {response : Response} (h : (dispatch request server).result = .ok response) :
    (server.receive request).lines =
        server.output.lines (some (correlationOf request))
          (server.boundEvents request ++ [completedEvent request response.status]) ∧
      (server.receive request).response.correlation = some (correlationOf request) := by
  rw [LogOutput.lines_append]
  rcases hrun : dispatch request server with ⟨result, state, log⟩
  rw [hrun] at h
  obtain rfl : result = .ok response := h
  unfold receive boundEvents
  rw [hrun]
  exact ⟨rfl, rfl⟩

theorem receive_of_error {e : Failure} (h : (dispatch request server).result = .error e) :
    (server.receive request).lines =
        server.output.lines (some (correlationOf request)) (server.boundEvents request) ++
          server.output.lines none [failedEvent request e] ∧
      (server.receive request).response.status = 500 ∧
      (server.receive request).response.correlation = none := by
  rcases hrun : dispatch request server with ⟨result, state, log⟩
  rw [hrun] at h
  obtain rfl : result = .error e := h
  unfold receive boundEvents
  rw [hrun]
  exact ⟨rfl, rfl, rfl⟩

/-- A request that is answered can be traced. -/
theorem isTraced_of_ok {response : Response}
    (h : (dispatch request server).result = .ok response) :
    (server.receive request).IsTraced (correlationOf request) := by
  obtain ⟨hlines, hcorrelation⟩ := receive_of_ok h
  refine ⟨?_, hcorrelation⟩
  rw [hlines]
  intro line hline
  refine LogOutput.correlation_of_mem_lines ?_ hline
  exact List.forall_mem_append.mpr ⟨isOrdinary_boundEvents server request,
    List.forall_mem_singleton.mpr (isOrdinary_completed request _)⟩

/-- The line about a failure has an identifier that nobody knows. -/
theorem correlation_of_mem_failed {output : LogOutput} {e : Failure} {line : LogLine}
    (h : line ∈ output.lines none [failedEvent request e]) : line.correlation = .generated :=
  LogOutput.correlation_of_mem_lines (List.forall_mem_singleton.mpr (isOrdinary_failed request e)) h

theorem isTraced_iff (id : CorrelationId) (hid : correlationOf request = id) :
    (server.receive request).IsTraced id ↔
      ∃ response, (dispatch request server).result = .ok response := by
  subst hid
  constructor
  · intro htraced
    cases hresult : (dispatch request server).result with
    | ok response => exact ⟨response, rfl⟩
    | error e =>
        obtain ⟨-, -, hnone⟩ := receive_of_error hresult
        rw [htraced.response] at hnone
        cases hnone
  · rintro ⟨response, h⟩
    exact isTraced_of_ok h

/-- A line has the identifier of its request or a generated one. -/
theorem correlation_of_mem_receive {line : LogLine} (h : line ∈ (server.receive request).lines) :
    line.correlation = correlationOf request ∨ line.correlation = .generated := by
  cases hresult : (dispatch request server).result with
  | ok response => exact .inl ((isTraced_of_ok hresult).lines line h)
  | error e =>
      obtain ⟨hlines, -, -⟩ := receive_of_error hresult
      rw [hlines] at h
      have hordinary := isOrdinary_boundEvents server request
      rcases List.mem_append.mp h with hbound | hfailed
      · exact .inl (LogOutput.correlation_of_mem_lines hordinary hbound)
      · exact .inr (correlation_of_mem_failed hfailed)

theorem correlationOf_eq_given_iff {id : String} :
    correlationOf request = .given (.text id) ↔
      request.header? "X-Correlation-ID" = some id := by
  unfold correlationOf
  cases request.header? "X-Correlation-ID" <;> simp

/-! ## The context -/

theorem contextAfter_bindStep (context : LogContext) (steps : List LogStep) :
    LogOutput.contextAfter context (bindStep request :: steps) =
      LogOutput.contextAfter (some (correlationOf request)) steps := by
  unfold bindStep correlationOf
  cases request.header? "X-Correlation-ID" <;> rfl

theorem run_bindStep (output : LogOutput) (context : LogContext) (steps : List LogStep) :
    output.run context (bindStep request :: steps) =
      output.run (some (correlationOf request)) steps := by
  unfold bindStep correlationOf
  cases request.header? "X-Correlation-ID" <;> rfl

/-- After a request nothing is bound. -/
theorem contextAfter_logSteps (server : Server) (request : Request) (context : LogContext) :
    LogOutput.contextAfter context (server.logSteps request) = none := by
  rw [logSteps, List.cons_append, contextAfter_bindStep, LogOutput.contextAfter_append]
  cases (dispatch request server).result <;> rfl

/-- The lines of a request are those of its steps, whatever is bound before. -/
theorem run_logSteps (server : Server) (request : Request) (context : LogContext) :
    server.output.run context (server.logSteps request) =
      .ok (server.receive request).lines := by
  have hbound := LogOutput.run_writes (isOrdinary_boundEvents server request) server.output
    (some (correlationOf request))
  rw [logSteps, List.cons_append, run_bindStep]
  cases hresult : (dispatch request server).result with
  | ok response =>
      obtain ⟨hlines, -⟩ := receive_of_ok hresult
      rw [hlines, LogOutput.lines_append]
      refine LogOutput.run_append hbound ?_
      rw [LogOutput.contextAfter_writes]
      have hcompleted := isOrdinary_completed request response.status
      have hlast := LogOutput.run_write (hcompleted.check_eq_ok server.output)
        (rfl : server.output.run (some (correlationOf request)) [.clear] = .ok [])
      rwa [List.append_nil] at hlast
  | error e =>
      obtain ⟨hlines, -, -⟩ := receive_of_error hresult
      rw [hlines]
      refine LogOutput.run_append hbound ?_
      -- the context is cleared before the failure is noted
      exact LogOutput.run_writes (List.forall_mem_singleton.mpr (isOrdinary_failed request e))
        server.output none

/-! ## Histories -/

theorem output_receive (server : Server) (request : Request) :
    (server.receive request).server.output = server.output := by
  obtain ⟨hsettings, -⟩ := exists_rules_receive server request
  rw [output, output, hsettings]

theorem run_logHistory (server : Server) (requests : List Request) (context : LogContext) :
    server.output.run context (server.logHistory requests) =
      .ok ((server.history requests).flatMap fun entry => entry.2.lines) := by
  induction requests generalizing server context with
  | nil => rfl
  | cons request requests ih =>
      refine LogOutput.run_append (run_logSteps server request context) ?_
      rw [contextAfter_logSteps, ← output_receive server request]
      exact ih _ none

/-- At each point of a history the server is what the requests before have made of it. -/
theorem eq_receive_of_history {requests : List Request} {before after : List (Request × Exchange)}
    {entry : Request × Exchange} (h : server.history requests = before ++ entry :: after) :
    entry.2 = (server.after (before.map (·.1))).receive entry.1 := by
  induction before generalizing requests server with
  | nil =>
      cases requests with
      | nil => cases h
      | cons request requests =>
          obtain ⟨rfl, -⟩ := List.cons.inj h
          rfl
  | cons first before ih =>
      cases requests with
      | nil => cases h
      | cons request requests =>
          obtain ⟨rfl, hrest⟩ := List.cons.inj h
          exact ih hrest

theorem output_after (server : Server) (requests : List Request) :
    (server.after requests).output = server.output := by
  induction requests generalizing server with
  | nil => rfl
  | cons request requests ih => exact (ih _).trans (output_receive server request)

/-- **A request can be traced unless it fails unexpectedly.** Take any requests, one after the
other, and one of them that carries an identifier. All its lines have the identifier and its
response carries it, whatever its status is, exactly if the request is answered. If it fails
unexpectedly instead, its response has the status 500 and carries no identifier, and only the line
about the failure, which comes last, does not have the identifier but one that nobody knows.

No line of a later request has the identifier unless this request carries it too. Whatever is bound
at first, all these lines are those of a single program that binds the identifier of each request,
writes its events and clears the context again. -/
theorem traced_iff {server : Server} {requests : List Request}
    {before after : List (Request × Exchange)} {entry : Request × Exchange} {id : String}
    (hhistory : server.history requests = before ++ entry :: after)
    (hid : entry.1.header? "X-Correlation-ID" = some id) :
    let current := server.after (before.map (·.1))
    entry.2 = current.receive entry.1 ∧
    (entry.2.IsTraced (.given (.text id)) ↔
      ∃ response, (dispatch entry.1 current).result = .ok response) ∧
    (∀ failure, (dispatch entry.1 current).result = .error failure →
      entry.2.response.status = 500 ∧ entry.2.response.correlation = none ∧
      ∃ bound last, entry.2.lines = bound ++ last ∧
        (∀ line ∈ bound, line.correlation = .given (.text id)) ∧
        last = server.output.lines none [failedEvent entry.1 failure] ∧
        ∀ line ∈ last, line.correlation = .generated) ∧
    (∀ later ∈ after, ∀ line ∈ later.2.lines, line.correlation = .given (.text id) →
      later.1.header? "X-Correlation-ID" = some id) ∧
    ∀ context, server.output.run context (server.logHistory requests) =
      .ok ((server.history requests).flatMap fun entry => entry.2.lines) := by
  intro current
  have hentry : entry.2 = current.receive entry.1 := eq_receive_of_history hhistory
  have hgiven : correlationOf entry.1 = .given (.text id) := correlationOf_eq_given_iff.mpr hid
  refine ⟨hentry, ?_, ?_, ?_, run_logHistory server requests⟩
  · rw [hentry]
    exact isTraced_iff _ hgiven
  · intro failure hfailure
    obtain ⟨hlines, hstatus, hcorrelation⟩ := receive_of_error hfailure
    rw [output_after server] at hlines
    rw [hentry]
    refine ⟨hstatus, hcorrelation, _, _, hlines, ?_, rfl, fun _ => correlation_of_mem_failed⟩
    intro line hline
    rw [LogOutput.correlation_of_mem_lines (isOrdinary_boundEvents current entry.1) hline, hgiven]
    rfl
  · intro later hlater line hline hcorrelation
    obtain ⟨between, rest, rfl⟩ := List.append_of_mem hlater
    have hsplit : server.history requests = (before ++ entry :: between) ++ later :: rest := by
      rw [hhistory, List.append_assoc, List.cons_append]
    rw [eq_receive_of_history hsplit] at hline
    rcases correlation_of_mem_receive hline with hown | hgenerated
    · exact correlationOf_eq_given_iff.mp (hown.symm.trans hcorrelation)
    · rw [hgenerated] at hcorrelation
      cases hcorrelation

/-- Two requests, of which the first one carries an identifier. -/
theorem traced_iff_of_two :
    let server := ofTables .empty
    let health : Request := ⟨"GET", "/health", [("X-Correlation-ID", "trace-1")], ""⟩
    let live : Request := ⟨"GET", "/live", [], ""⟩
    let told := server.receive health
    let later := told.server.receive live
    told.IsTraced (.given (.text "trace-1")) ∧
      ∀ line ∈ later.lines, line.correlation ≠ .given (.text "trace-1") := by
  intro server health live told later
  have hreached : health.reached? server.settings = some .health := by decide +kernel
  have hends : (dispatch health).Ends server _ server :=
    ends_dispatch hreached (.bind ⟨_, rfl⟩ ⟨_, rfl⟩)
  have hhistory : server.history [health, live] = [] ++ (health, told) :: [(live, later)] := rfl
  have hid : health.header? "X-Correlation-ID" = some "trace-1" := by decide
  have hother : live.header? "X-Correlation-ID" ≠ some "trace-1" := by decide
  -- from here on it does not matter how the requests are answered
  clear_value told later
  obtain ⟨-, htraced, -, hlater, -⟩ := traced_iff hhistory hid
  refine ⟨htraced.mpr ⟨_, hends.result_eq⟩, ?_⟩
  intro line hline hcorrelation
  exact hother (hlater _ (List.mem_singleton_self _) line hline hcorrelation)

/-- The request with an identifier. -/
def carrying (request : Request) (id : String) : Request :=
  { request with headers := ("X-Correlation-ID", id) :: request.headers }

/-- An identifier does not change what the body holds. -/
theorem content_carrying (request : Request) (id : String) :
    (carrying request id).content = request.content := by
  have hother : (Request.lowerLetters "X-Correlation-ID" ==
      Request.lowerLetters "content-type") = false := by decide
  have hheader : (carrying request id).header? "content-type" = request.header? "content-type" := by
    simp only [Request.header?, carrying, List.find?_cons, hother]
  unfold Request.content Request.hasDocument
  rw [hheader]
  rfl

/-- A creation of a rule with a number too large for a double fails unexpectedly. The line about
the failure does not have the identifier of the request, and the response does not carry it. -/
theorem not_traced_of_overflow :
    let server := ofTables .empty
    let request := carrying (.creation "r" "a = 1e999") "trace-1"
    let e := server.receive request
    request.header? "X-Correlation-ID" = some "trace-1" ∧ e.response.status = 500 ∧
      e.response.correlation = none ∧ ∃ line ∈ e.lines, line.correlation = .generated ∧
        line.fields.get? "message" = some (.text "Unhandled exception") := by
  intro server request e
  let rule : Rule := ⟨"r", "a = 1e999", .atom ⟨"a", "=", .number (.double (.infinity false))⟩⟩
  have hscan : Token.scan "a = 1e999" =
      [⟨.name, "a", 0⟩, ⟨.comparison, "=", 2⟩, ⟨.number, "1e999", 4⟩] := by decide +kernel
  have hread : Formula.ofText? rule.text server.settings.policy.maxDepth = .ok rule.formula := by
    rw [Formula.ofText?, hscan]
    rfl
  have hrule : request.Proposes server.settings.policy rule := by
    obtain ⟨body, hcontent, hchecked⟩ :=
      (Request.proposes_creation (by decide) (by decide) hread).body
    exact ⟨⟨body, (content_carrying _ _).trans hcontent, hchecked⟩, hread⟩
  have hreached : request.reached? server.settings = some .createRule := by
    have hempty : (carrying (.creation "" "") "trace-1").reached? .default =
        some .createRule := by decide +kernel
    exact (Request.reached?_body .default (carrying (.creation "" "") "trace-1") request.body).trans
      hempty
  have hshort : RuleBook.checkLength server.settings.policy rule.text = .ok () :=
    RuleBook.checkLength_of_le (by decide)
  obtain ⟨engine, sessions, s, -, hends⟩ := ends_endpoint_of_free Settings.checkDatabase_default rfl
    hrule hshort (by decide) (by decide)
  have hinfinite : Handler.announced rule = .error .notWritable := if_neg (by decide +kernel)
  rw [hinfinite] at hends
  have hfailed : (dispatch request server).result = .error .notWritable :=
    (ends_dispatch hreached hends).result_eq
  obtain ⟨hlines, hstatus, hcorrelation⟩ := receive_of_error hfailed
  have he : server.receive request = e := rfl
  rw [he] at hlines hstatus hcorrelation
  have hwritten : (failedEvent request .notWritable).line none ∈
      server.output.lines none [failedEvent request .notWritable] :=
    List.mem_map_of_mem (List.mem_filter.mpr ⟨List.mem_singleton_self _, by decide⟩)
  have hline : (failedEvent request .notWritable).line none ∈ e.lines :=
    hlines ▸ List.mem_append_right _ hwritten
  have hid : request.header? "X-Correlation-ID" = some "trace-1" := by decide
  exact ⟨hid, hstatus, hcorrelation, _, hline, correlation_of_mem_failed hwritten, rfl⟩

end Eligibility.Server

import Eligibility.Proofs.Api.Serving

/-!
# Requests that create rules

What a creation is answered with and what it leaves in the tables: the handler commits the rule and
its attributes, and only then makes the response, which cannot show an infinity. So a creation
either leaves the tables as they are, or adds exactly the rule that the request proposes and the
attributes that were not known; it is answered with 201 in the second case, unless a number of the
rule is an infinity (`receive_createRule_cases`).
-/

namespace Eligibility

/-! ## Rules that can be shown -/

theorem Formula.allFinite_joinValue (op : Connective) (left right : Value) :
    (joinValue op left right).allFinite = (left.allFinite && right.allFinite) := by
  simp [joinValue, Value.allFinite, Value.allFiniteFields]

/-- The document of a formula can be written if its numbers are finite. -/
theorem Formula.allFinite_toValue (f : Formula) :
    f.toValue.allFinite = true ↔ ∀ c ∈ f.comparisons, c.value.Finite := by
  unfold toValue
  induction f with
  | atom c =>
      rw [fold_atom, comparisons_atom]
      cases hvalue : c.value <;>
        simp [comparisonValue, hvalue, Literal.toValue, Literal.Finite, Value.allFinite,
          Value.allFiniteFields]
  | join op left right ihl ihr =>
      rw [fold_join, comparisons_join, allFinite_joinValue, Bool.and_eq_true, ihl, ihr]
      simp [or_imp, forall_and]

/-- The rule as responses show it. -/
def Rule.shown (rule : Rule) : Value := .ofRule rule.name rule.text rule.formula

theorem Rule.allFinite_shown (rule : Rule) :
    rule.shown.allFinite = true ↔ ∀ c ∈ rule.formula.comparisons, c.value.Finite := by
  simp [shown, Value.ofRule, Value.allFinite, Value.allFiniteFields, Formula.allFinite_toValue]

/-- The tables with a rule at the end, and with entries for those of its attributes that are not
known. -/
def Tables.withRule (policy : Policy) (tables : Tables) (rule : Rule) : Tables :=
  tables.append [rule.toRow] (tables.guessedEntries policy.hints rule.formula.attributes)

namespace Handler

variable {policy : Policy} {body : CreateRule} {s s' : Session} {f : Formula}

/-- What the request for a rule comes to once the rule is there. -/
def announced (rule : Rule) : Except Failure Response :=
  if rule.shown.allFinite then .ok (.plain 201 (.document rule.shown)) else .error .notWritable

/-- What comes of a creation that goes well: the response is made after the commit. -/
theorem ends_createRule (h : (RuleBook.create policy body.name body.text).Ends s (.ok f) s') :
    (createRule policy body).Ends s (announced ⟨body.name, body.text, f⟩) s'.commit :=
  h.attempt.bind (.bind ⟨_, rfl⟩ (ends_respond 201 _ _))

/-- A creation that goes wrong is refused, or the request fails. -/
theorem ends_createRule_of_error {e : RuleError}
    (h : (RuleBook.create policy body.name body.text).Ends s (.error e) s') :
    ∃ result, Server.IsRefusal result ∧ (createRule policy body).Ends s result s' := by
  have hreject (message : String) : (createRule.reject body message).Ends s'
      (.ok (.detail 422 message)) s' := .bind ⟨_, rfl⟩ ⟨_, rfl⟩
  cases e with
  | duplicate name =>
      refine ⟨_, Server.isRefusal_ok ?_, h.attempt.bind ⟨_, rfl⟩⟩
      simp [Response.detail, Response.plain]
  | syntaxError e =>
      refine ⟨_, Server.isRefusal_ok ?_, h.attempt.bind (hreject e.message)⟩
      simp [Response.detail, Response.plain]
  | unknownAttribute name =>
      refine ⟨_, Server.isRefusal_ok ?_, h.attempt.bind (hreject _)⟩
      simp [Response.detail, Response.plain]
  | _ => exact ⟨_, Server.isRefusal_error _, h.attempt.bind ⟨_, rfl⟩⟩

/-- On a session of the tables, a creation commits nothing, or the rule under a free name and its
unknown attributes. -/
theorem createRule_cases (policy : Policy) (body : CreateRule) (tables : Tables) :
    (∃ result s', Server.IsRefusal result ∧ s'.committed = tables ∧
      (createRule policy body).Ends (.ofTables tables) result s') ∨
    ∃ f, RuleBook.checkLength policy body.text = .ok () ∧ body.name ≠ "" ∧
      body.name ∉ tables.ruleNames ∧ Formula.ofText? body.text policy.maxDepth = .ok f ∧
      (createRule policy body).Ends (.ofTables tables) (announced ⟨body.name, body.text, f⟩)
        (.ofTables (tables.withRule policy ⟨body.name, body.text, f⟩)) := by
  have hfailed {e : RuleError} {s' : Session} (hs : s'.committed = tables)
      (h : (RuleBook.create policy body.name body.text).Ends (.ofTables tables) (.error e) s') :
      ∃ result s', Server.IsRefusal result ∧ s'.committed = tables ∧
        (createRule policy body).Ends (.ofTables tables) result s' := by
    obtain ⟨result, hresult, hends⟩ := ends_createRule_of_error h
    exact ⟨result, s', hresult, hs, hends⟩
  rcases RuleBook.create_cases policy body.name body.text (.ofTables tables) with
    ⟨e, -, hends⟩ | ⟨-, f, -, hends⟩ | ⟨f, hlength, hname, hfree, hread, hends⟩
  · exact .inl (hfailed rfl hends)
  · exact .inl (hfailed rfl hends)
  · exact .inr ⟨f, hlength, hname, Session.rule?_eq_none_iff.mp hfree, hread,
      ends_createRule hends⟩

end Handler

/-- The body of the request asks for a rule whose text reads as its formula. -/
structure Request.Proposes (request : Request) (policy : Policy) (rule : Rule) : Prop where
  body : ∃ body, request.content = .ok body ∧
    body.checked CreateRule.ofFields = .ok ⟨rule.name, rule.text⟩
  read : Formula.ofText? rule.text policy.maxDepth = .ok rule.formula

/-! ## The usual settings -/

/-- The default settings name a database that can be reached. -/
theorem Settings.checkDatabase_default : default.checkDatabase = .ok () := by
  have hscheme : "sqlite+aiosqlite".splitOn "+" = ["sqlite", "aiosqlite"] := by
    simp +decide [String.splitOn, String.splitOnAux]
  have hfields : Text.formFields [] = [] := by
    simp +decide [Text.formFields, String.splitOn, String.splitOnAux]
  have hoptions : Address.optionsOf none = [] := by
    rw [Address.optionsOf, Option.getD_none, hfields]
    rfl
  let address : Address :=
    ⟨"sqlite+aiosqlite", none, none, none, none, some "./rc_data/rulecraft.db", []⟩
  have haddress : Address.ofText? default.databaseUrl =
      .ok { address with options := Address.optionsOf none } := rfl
  have hdriver : address.driver? = .ok .asynchronous := by
    simp only [Address.driver?, address, hscheme]
    rfl
  have hsqlite : address.withoutExtensions.checkSqlite true = .ok () := by
    have hopens : (address.withoutExtensions.checkSqlite true).toBool = true := by decide +kernel
    cases hcheck : address.withoutExtensions.checkSqlite true with
    | ok _ => rfl
    | error e =>
        rw [hcheck] at hopens
        cases hopens
  rw [checkDatabase, haddress, hoptions]
  show address.check = _
  rw [Address.check, hdriver]
  exact hsqlite

/-- A request for a rule on the path that is usual. -/
def Request.creation (name text : String) : Request :=
  ⟨"POST", "/api/v1/rules", [("Content-Type", "application/json")],
    (Value.object [("ruleName", .text name), ("ruleString", .text text)]).write⟩

/-- Where a request leads does not depend on its body. -/
theorem Request.reached?_body (settings : Settings) (request : Request) (body : String) :
    Request.reached? settings { request with body := body } = request.reached? settings := rfl

theorem Request.reached?_creation (name text : String) :
    (creation name text).reached? .default = some .createRule := by
  have hreached : (creation "" "").reached? .default = some .createRule := by decide +kernel
  exact (reached?_body .default (creation "" "") (creation name text).body).trans hreached

/-! ## What becomes of creations -/

namespace Server

variable {server : Server} {request : Request}

/-- The request is turned down or fails, and the server keeps its tables. -/
structure Declines (server : Server) (e : Exchange) : Prop where
  status : e.response.status ∈ [400, 409, 422, 500]
  settings : e.server.settings = server.settings
  hasTables : e.server.hasTables = server.hasTables
  tables : e.server.tables = server.tables

/-- The database is there and the name is free, so the server takes up a rule, and tells so if the
rule can be shown. -/
structure TakesUp (server : Server) (rule : Rule) (e : Exchange) : Prop where
  reachable : server.settings.checkDatabase = .ok ()
  ready : server.hasTables = true
  free : rule.name ∉ server.tables.ruleNames
  settings : e.server.settings = server.settings
  hasTables : e.server.hasTables = server.hasTables
  tables : e.server.tables = server.tables.withRule server.settings.policy rule
  told : if rule.shown.allFinite then
      e.response.status = 201 ∧ e.response.payload = .document rule.shown
    else e.response.status = 500

theorem Declines.status_ne {e : Exchange} (h : server.Declines e) : e.response.status ≠ 201 := by
  intro hcreated
  have hstatus := h.status
  rw [hcreated] at hstatus
  exact absurd hstatus (by decide)

theorem declines_of_ends (h : request.reached? server.settings = some .createRule)
    {result : Except Failure Response} (hresult : IsRefusal result) {engine sessions : Bool}
    (hends : (endpoint request .createRule).Ends server result (server.opened engine sessions)) :
    server.Declines (server.receive request) := by
  obtain ⟨lines, correlation, heq⟩ := receive_of_ends (ends_dispatch h hends)
  rw [heq]
  exact ⟨status_of_isRefusal hresult server.settings, rfl, rfl, rfl⟩

theorem takesUp_of_ends (h : request.reached? server.settings = some .createRule)
    (hdatabase : server.settings.checkDatabase = .ok ()) (htables : server.hasTables = true)
    {rule : Rule} (hfree : rule.name ∉ server.tables.ruleNames) {s : Session}
    (hs : s.committed = server.tables.withRule server.settings.policy rule)
    {engine sessions : Bool}
    (hends : (endpoint request .createRule).Ends server (Handler.announced rule)
      ((server.opened engine sessions).keep s)) :
    server.TakesUp rule (server.receive request) := by
  obtain ⟨lines, correlation, heq⟩ := receive_of_ends (ends_dispatch h hends)
  rw [heq]
  refine ⟨hdatabase, htables, hfree, rfl, rfl, hs, ?_⟩
  unfold Handler.announced
  split
  · exact ⟨rfl, rfl⟩
  · rfl

/-- A request for a rule is declined, or the rule that it proposes is taken up. -/
theorem receive_createRule_cases (h : request.reached? server.settings = some .createRule) :
    server.Declines (server.receive request) ∨
    ∃ rule, request.Proposes server.settings.policy rule ∧ rule.name ≠ "" ∧
      server.TakesUp rule (server.receive request) := by
  obtain ⟨engine, sessions, ⟨result, hresult, hends⟩ |
      ⟨hdatabase, body, asked, hbody, hasked, hlook, hends⟩⟩ :=
    handleBody_cases server request (·.checked CreateRule.ofFields)
      (createLooksUp server.settings.policy) (Handler.createRule server.settings.policy)
  · exact .inl (declines_of_ends h hresult (.bind ⟨_, rfl⟩ hends))
  · rcases Handler.createRule_cases server.settings.policy asked server.tables with
      ⟨result, s', hresult, hcommitted, hwork⟩ | ⟨f, hlength, hname, hfree, hread, hwork⟩
    · left
      rw [hwork.result_eq, hwork.state_eq, keep, hcommitted] at hends
      exact declines_of_ends h hresult (.bind ⟨_, rfl⟩ hends)
    · right
      have htables : server.hasTables = true := by
        simpa [createLooksUp, hlength] using hlook
      rw [hwork.result_eq, hwork.state_eq] at hends
      exact ⟨⟨asked.name, asked.text, f⟩, ⟨⟨body, hbody, hasked⟩, hread⟩, hname,
        takesUp_of_ends h hdatabase htables hfree rfl (.bind ⟨_, rfl⟩ hends)⟩

/-- If the database is there, the text of a rule is within the limit and its name is free, then the
rule is announced once it is there. -/
theorem ends_endpoint_of_free (hdatabase : server.settings.checkDatabase = .ok ())
    (htables : server.hasTables = true) {rule : Rule}
    (hrule : request.Proposes server.settings.policy rule)
    (hlength : RuleBook.checkLength server.settings.policy rule.text = .ok ())
    (hname : rule.name ≠ "") (hfree : rule.name ∉ server.tables.ruleNames) :
    ∃ engine sessions s, s.committed = server.tables.withRule server.settings.policy rule ∧
      (endpoint request .createRule).Ends server (Handler.announced rule)
        ((server.opened engine sessions).keep s) := by
  obtain ⟨body, hcontent, hchecked⟩ := hrule.body
  have hwork : (Handler.createRule server.settings.policy ⟨rule.name, rule.text⟩).Ends
      (.ofTables server.tables) _ _ :=
    Handler.ends_createRule (RuleBook.ends_create hlength
      (Session.rule?_eq_none_iff.mpr hfree) hrule.read hname)
  obtain ⟨engine, sessions, hends⟩ := ends_handleBody (·.checked CreateRule.ofFields)
    (createLooksUp server.settings.policy) (Handler.createRule server.settings.policy)
    hdatabase htables hcontent hchecked
  rw [hwork.result_eq, hwork.state_eq] at hends
  exact ⟨engine, sessions, _, rfl, .bind ⟨_, rfl⟩ hends⟩

/-- A rule is taken up if the database is there, its text is within the limit, and its name is free.
-/
theorem takesUp_of_free (h : request.reached? server.settings = some .createRule)
    (hdatabase : server.settings.checkDatabase = .ok ()) (htables : server.hasTables = true)
    {rule : Rule} (hrule : request.Proposes server.settings.policy rule)
    (hlength : RuleBook.checkLength server.settings.policy rule.text = .ok ())
    (hname : rule.name ≠ "") (hfree : rule.name ∉ server.tables.ruleNames) :
    server.TakesUp rule (server.receive request) := by
  obtain ⟨engine, sessions, s, hs, hends⟩ :=
    ends_endpoint_of_free hdatabase htables hrule hlength hname hfree
  exact takesUp_of_ends h hdatabase htables hfree hs hends

/-- A server with the default settings and with these tables. -/
def ofTables (tables : Tables) : Server := ⟨.default, tables, true, true, true⟩

theorem takesUp_creation {rule : Rule}
    (hrule : (Request.creation rule.name rule.text).Proposes Settings.default.policy rule)
    (hlength : rule.text.length ≤ 4096) (hname : rule.name ≠ "") {tables : Tables}
    (hfree : rule.name ∉ tables.ruleNames) :
    (ofTables tables).TakesUp rule
      ((ofTables tables).receive (.creation rule.name rule.text)) := by
  have hreached : (Request.creation rule.name rule.text).reached? (ofTables tables).settings =
      some .createRule := Request.reached?_creation ..
  have hdatabase : (ofTables tables).settings.checkDatabase = .ok () :=
    Settings.checkDatabase_default
  have hshort : RuleBook.checkLength (ofTables tables).settings.policy rule.text = .ok () := by
    show (if (4096 : Int) < rule.text.length then _ else _) = _
    rw [if_neg (by omega)]
  exact takesUp_of_free hreached hdatabase rfl hrule hshort hname hfree

/-- **The status of a creation and what it leaves in the tables.** Whatever the tables and the body
are: after 201 the tables are the old ones with the rule that the request proposes at the end, and
with entries for those of its attributes that were not known. After any other status they are what
they were, unless a number of the proposed rule is an infinity: then the rule and its attributes are
there and the status is 500, since the response is made after the commit. -/
theorem receive_createRule_atomic (h : request.reached? server.settings = some .createRule) :
    let e := server.receive request
    let policy := server.settings.policy
    (e.response.status = 201 → ∃ rule, request.Proposes policy rule ∧
      (∀ c ∈ rule.formula.comparisons, c.value.Finite) ∧
      e.server.tables = server.tables.withRule policy rule ∧
      e.response.payload = .document rule.shown) ∧
    (e.response.status ≠ 201 → e.response.status ∈ [400, 409, 422, 500] ∧
      (e.server.tables = server.tables ∨ e.response.status = 500 ∧ ∃ rule,
        request.Proposes policy rule ∧ ¬ (∀ c ∈ rule.formula.comparisons, c.value.Finite) ∧
        e.server.tables = server.tables.withRule policy rule)) := by
  intro e policy
  rcases receive_createRule_cases h with hdeclined | ⟨rule, hrule, -, htaken⟩
  · exact ⟨fun hcreated => absurd hcreated hdeclined.status_ne,
      fun _ => ⟨hdeclined.status, .inl hdeclined.tables⟩⟩
  · have htold := htaken.told
    split at htold
    · rename_i hfinite
      rw [Rule.allFinite_shown] at hfinite
      obtain ⟨hstatus, hpayload⟩ := htold
      exact ⟨fun _ => ⟨rule, hrule, hfinite, htaken.tables, hpayload⟩,
        fun hne => absurd hstatus hne⟩
    · rename_i hinfinite
      rw [Rule.allFinite_shown] at hinfinite
      have hstatus : e.response.status = 500 := htold
      refine ⟨fun hcreated => absurd (hstatus.symm.trans hcreated) (by decide), fun _ => ⟨?_, ?_⟩⟩
      · rw [hstatus]
        decide
      · exact .inr ⟨hstatus, rule, hrule, hinfinite, htaken.tables⟩

/-- An attribute is known, the other one is not. -/
theorem receive_createRule_atomic_of_known :
    let rule : Rule := ⟨"r", "age > 30 AND vip = 'yes'",
      .join .and (.atom ⟨"age", ">", .number (.int 30)⟩) (.atom ⟨"vip", "=", .text "yes"⟩)⟩
    let server := ofTables ⟨[], [⟨"age", .boolean, none⟩]⟩
    let request := Request.creation rule.name rule.text
    request.reached? server.settings = some .createRule ∧
      (server.receive request).response.status = 201 ∧
      ∃ created, request.Proposes server.settings.policy created ∧
        (server.receive request).server.tables =
          server.tables.withRule server.settings.policy created := by
  intro rule server request
  have hreached : request.reached? server.settings = some .createRule :=
    Request.reached?_creation ..
  have hcontent : (Request.creation "r" "age > 30 AND vip = 'yes'").content =
      .ok (.document (.object
        [("ruleName", .text "r"), ("ruleString", .text "age > 30 AND vip = 'yes'")])) := by rfl
  have hscan : Token.scan "age > 30 AND vip = 'yes'" =
      [⟨.name, "age", 0⟩, ⟨.comparison, ">", 4⟩, ⟨.number, "30", 6⟩, ⟨.connective .and, "AND", 9⟩,
        ⟨.name, "vip", 13⟩, ⟨.comparison, "=", 17⟩, ⟨.quoted, "'yes'", 19⟩] := by decide +kernel
  have hread : Formula.ofText? rule.text Settings.default.policy.maxDepth = .ok rule.formula := by
    rw [Formula.ofText?, hscan]
    rfl
  have hrule : request.Proposes Settings.default.policy rule := ⟨⟨_, hcontent, rfl⟩, hread⟩
  have htaken : server.TakesUp rule (server.receive request) :=
    takesUp_creation hrule (by decide) (by decide) (by decide)
  have hstatus : (server.receive request).response.status = 201 := by
    have htold := htaken.told
    rw [if_pos (by decide +kernel)] at htold
    exact htold.1
  obtain ⟨created, hcreated, -, htables, -⟩ := (receive_createRule_atomic hreached).1 hstatus
  exact ⟨hreached, hstatus, created, hcreated, htables⟩

/-- A number too large for a double is an infinity. The request fails, and the rule and its
attribute are there. -/
theorem not_atomic_of_overflow :
    let rule : Rule := ⟨"r", "a = 1e999", .atom ⟨"a", "=", .number (.double (.infinity false))⟩⟩
    let server := ofTables .empty
    let request := Request.creation rule.name rule.text
    request.reached? server.settings = some .createRule ∧
      (server.receive request).response.status = 500 ∧
      (server.receive request).server.tables.ruleNames = ["r"] ∧
      (server.receive request).server.tables.attributeNames = ["a"] := by
  intro rule server request
  have hreached : request.reached? server.settings = some .createRule :=
    Request.reached?_creation ..
  have hcontent : (Request.creation "r" "a = 1e999").content = .ok (.document (.object
      [("ruleName", .text "r"), ("ruleString", .text "a = 1e999")])) := by rfl
  have hscan : Token.scan "a = 1e999" =
      [⟨.name, "a", 0⟩, ⟨.comparison, "=", 2⟩, ⟨.number, "1e999", 4⟩] := by decide +kernel
  have hread : Formula.ofText? rule.text Settings.default.policy.maxDepth = .ok rule.formula := by
    rw [Formula.ofText?, hscan]
    rfl
  have hrule : request.Proposes Settings.default.policy rule := ⟨⟨_, hcontent, rfl⟩, hread⟩
  have htaken : server.TakesUp rule (server.receive request) :=
    takesUp_creation hrule (by decide) (by decide) (by decide)
  refine ⟨hreached, ?_, ?_, ?_⟩
  · have htold := htaken.told
    rw [if_neg (by decide +kernel)] at htold
    exact htold
  · rw [htaken.tables]
    rfl
  · rw [htaken.tables]
    decide +kernel

end Server

end Eligibility

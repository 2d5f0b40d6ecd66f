import Eligibility.Proofs.Api.Creation

/-!
# Histories of requests

A server that has just started gets requests, one after the other. What it is asked for in between
does not matter: the table of rules holds exactly the rules whose creation was answered with 201, in
the order of these answers (`Records`), as long as no creation failed unexpectedly. One request
keeps this up (`Records.step`), so it holds at each point of a history
(`Records.exists_of_history`), and a listing shows what was told (`listing_eq_created`).
-/

namespace Eligibility

/-- A rule that can be read back from its row, and whose numbers can be shown. -/
structure Rule.IsShowable (rule : Rule) : Prop where
  name_ne : rule.name ≠ ""
  text_ne : rule.text ≠ ""
  finite : rule.shown.allFinite = true

namespace Session

/-- The rows of rules that can be shown are listed as these rules. -/
theorem listed_map_toRow {rules : List Rule} (h : ∀ rule ∈ rules, rule.IsShowable) :
    listed (rules.map Rule.toRow) = .ok rules := by
  induction rules with
  | nil => rfl
  | cons rule rules ih =>
      obtain ⟨hrule, hrules⟩ := List.forall_mem_cons.mp h
      rw [List.map_cons, listed, Rule.ofRow?_toRow hrule.name_ne hrule.text_ne, ih hrules]
      rfl

end Session

theorem Value.allFinite_list (items : List Value) :
    (Value.list items).allFinite = true ↔ ∀ v ∈ items, v.allFinite = true := by
  show allFiniteItems items = true ↔ _
  induction items with
  | nil => simp [allFiniteItems]
  | cons v items ih => simp [allFiniteItems, ih]

namespace Handler

/-- A listing of rules that can be shown shows them. -/
theorem ends_listRules {rules : List Rule} {s : Session}
    (hrows : s.current.rules = rules.map Rule.toRow) (h : ∀ rule ∈ rules, rule.IsShowable) :
    listRules.Ends s (.ok (.plain 200 (.document (.list (rules.map Rule.shown))))) s := by
  have hlisted : Session.listRules.Ends s (.ok rules) s := by
    have hends := Session.ends_listRules s
    rwa [hrows, Session.listed_map_toRow h] at hends
  have hfinite : (Value.list (rules.map Rule.shown)).allFinite = true := by
    rw [Value.allFinite_list]
    intro v hv
    obtain ⟨rule, hrule, rfl⟩ := List.mem_map.mp hv
    exact (h rule hrule).finite
  have hrespond := ends_respond 200 (.list (rules.map Rule.shown)) s
  rw [if_pos hfinite] at hrespond
  exact (hlisted.mapError Failure.rule).bind hrespond

end Handler

/-- A request for all rules on the path that is usual. -/
def Request.listing : Request := ⟨"GET", "/api/v1/rules", [], ""⟩

theorem Request.reached?_listing : listing.reached? .default = some .listRules := by
  decide +kernel

namespace Server

variable {settings : Settings} {server : Server} {past : List (Request × Exchange)}

/-- The requests, one after the other, each with what it led to. -/
def history (server : Server) : List Request → List (Request × Exchange)
  | [] => []
  | request :: requests =>
      (request, server.receive request) :: (server.receive request).server.history requests

/-- The request reached the creation of rules and was told that the rule is there. -/
def toldCreated (settings : Settings) (entry : Request × Exchange) : Bool :=
  entry.1.reached? settings = some .createRule && entry.2.response.status = 201

/-- What those requests were shown that were told that their rule is there, in their order. -/
def created (settings : Settings) (past : List (Request × Exchange)) : List Payload :=
  (past.filter (toldCreated settings)).map (·.2.response.payload)

/-- The server is up, and nothing is stored. -/
structure IsFresh (server : Server) : Prop where
  reachable : server.settings.checkDatabase = .ok ()
  hasTables : server.hasTables = true
  empty : server.tables = .empty

/-- The table of rules holds exactly the rules whose creation was told of, and all of them can be
shown. -/
structure Records (settings : Settings) (past : List (Request × Exchange)) (server : Server) :
    Prop where
  settings_eq : server.settings = settings
  reachable : settings.checkDatabase = .ok ()
  hasTables : server.hasTables = true
  rules : ∃ rules : List Rule, server.tables.rules = rules.map Rule.toRow ∧
    created settings past = rules.map (.document ·.shown) ∧ ∀ rule ∈ rules, rule.IsShowable

theorem IsFresh.records (h : server.IsFresh) : Records server.settings [] server := by
  refine ⟨rfl, h.reachable, h.hasTables, [], ?_, rfl, by simp⟩
  rw [h.empty]
  rfl

section Created

variable {request : Request} {e : Exchange}

theorem toldCreated_iff : toldCreated settings (request, e) = true ↔
    request.reached? settings = some .createRule ∧ e.response.status = 201 := by
  simp [toldCreated]

theorem created_concat_of_told (hreached : request.reached? settings = some .createRule)
    (hstatus : e.response.status = 201) :
    created settings (past ++ [(request, e)]) = created settings past ++ [e.response.payload] := by
  simp [created, toldCreated_iff.mpr ⟨hreached, hstatus⟩]

theorem created_concat_of_not_told
    (h : request.reached? settings = some .createRule → e.response.status ≠ 201) :
    created settings (past ++ [(request, e)]) = created settings past := by
  have hnot : toldCreated settings (request, e) = false := by
    rw [Bool.eq_false_iff, ne_eq, toldCreated_iff]
    exact fun htold => h htold.1 htold.2
  simp [created, hnot]

end Created

/-- Whatever is asked for, the table goes on holding what was told, unless a creation fails. -/
theorem Records.step (h : Records settings past server) (request : Request)
    (hcreation : request.reached? settings = some .createRule →
      (server.receive request).response.status ≠ 500) :
    Records settings (past ++ [(request, server.receive request)])
      (server.receive request).server := by
  obtain ⟨rfl, hreachable, htables, rules, hrows, hcreated, hshowable⟩ := h
  by_cases hreached : request.reached? server.settings = some .createRule
  · rcases receive_createRule_cases hreached with hdeclined | ⟨rule, hrule, hname, htaken⟩
    · refine ⟨hdeclined.settings, hreachable, hdeclined.hasTables.trans htables, rules, ?_, ?_,
        hshowable⟩
      · rw [hdeclined.tables, hrows]
      · rw [created_concat_of_not_told fun _ => hdeclined.status_ne, hcreated]
    · have htold := htaken.told
      split at htold
      · rename_i hfinite
        obtain ⟨hstatus, hpayload⟩ := htold
        have hrule : rule.IsShowable :=
          ⟨hname, Formula.text_ne_empty_of_ofText? hrule.read, hfinite⟩
        refine ⟨htaken.settings, hreachable, htaken.hasTables.trans htables, rules ++ [rule],
          ?_, ?_, ?_⟩
        · rw [htaken.tables, Tables.withRule, Tables.append, hrows, List.map_append]
          rfl
        · rw [created_concat_of_told hreached hstatus, hcreated, hpayload, List.map_append]
          rfl
        · exact List.forall_mem_append.mpr ⟨hshowable, List.forall_mem_singleton.mpr hrule⟩
      · exact absurd htold (hcreation hreached)
  · have hshown := shown_receive hreached
    obtain ⟨hsettings, hhas, hrules⟩ : (server.receive request).server.settings = server.settings ∧
        (server.receive request).server.hasTables = server.hasTables ∧
        (server.receive request).server.tables.rules = server.tables.rules := by
      simpa [shown] using hshown
    refine ⟨hsettings, hreachable, hhas.trans htables, rules, hrules.trans hrows, ?_, hshowable⟩
    rw [created_concat_of_not_told fun h => absurd h hreached, hcreated]

/-- At each point of a history the table of rules holds what was told up to there. -/
theorem Records.exists_of_history {requests : List Request}
    {before after : List (Request × Exchange)} {entry : Request × Exchange}
    (h : Records settings past server)
    (hhistory : server.history requests = before ++ entry :: after)
    (hcreations : ∀ entry ∈ server.history requests,
      entry.1.reached? settings = some .createRule → entry.2.response.status ≠ 500) :
    ∃ server', Records settings (past ++ before) server' ∧ entry.2 = server'.receive entry.1 := by
  induction before generalizing requests server past with
  | nil =>
      cases requests with
      | nil => exact nomatch hhistory
      | cons request requests =>
          obtain ⟨rfl, -⟩ := List.cons.inj hhistory
          exact ⟨server, by rwa [List.append_nil], rfl⟩
  | cons first before ih =>
      cases requests with
      | nil => exact nomatch hhistory
      | cons request requests =>
          obtain ⟨rfl, hrest⟩ := List.cons.inj hhistory
          obtain ⟨hfirst, hlater⟩ := List.forall_mem_cons.mp hcreations
          obtain ⟨server', hrecords, hentry⟩ := ih (h.step request hfirst) hrest hlater
          exact ⟨server', by simpa using hrecords, hentry⟩

/-- A listing shows what was told. -/
theorem Records.receive_listRules (h : Records settings past server) {request : Request}
    (hreached : request.reached? settings = some .listRules) :
    (server.receive request).response.status = 200 ∧ ∃ bodies : List Value,
      created settings past = bodies.map .document ∧
      (server.receive request).response.payload = .document (.list bodies) := by
  obtain ⟨rfl, hreachable, htables, rules, hrows, hcreated, hshowable⟩ := h
  obtain ⟨engine, sessions, hends⟩ :=
    ends_handle (.all .rules) Handler.listRules hreachable htables
  have hwork : Handler.listRules.Ends (.ofTables server.tables) _ _ :=
    Handler.ends_listRules hrows hshowable
  rw [hwork.result_eq] at hends
  obtain ⟨lines, correlation, heq⟩ := receive_of_ends (ends_dispatch hreached hends)
  rw [heq]
  refine ⟨rfl, rules.map Rule.shown, ?_, rfl⟩
  rw [hcreated, List.map_map]
  rfl

/-- **A listing shows what creations were told.** Let a server be up with nothing stored, and take
any requests, one after the other, of which no creation of a rule was answered with 500. Each
request that reaches the listing of rules is answered with 200, and is shown exactly what the
creations before it were shown that were answered with 201, in their order. -/
theorem listing_eq_created (h : server.IsFresh) (requests : List Request)
    (hcreations : ∀ entry ∈ server.history requests,
      entry.1.reached? server.settings = some .createRule → entry.2.response.status ≠ 500) :
    ∀ before entry after, server.history requests = before ++ entry :: after →
      entry.1.reached? server.settings = some .listRules →
      entry.2.response.status = 200 ∧ ∃ bodies : List Value,
        created server.settings before = bodies.map .document ∧
        entry.2.response.payload = .document (.list bodies) := by
  intro before entry after hhistory hreached
  obtain ⟨server', hrecords, hentry⟩ := h.records.exists_of_history hhistory hcreations
  rw [hentry]
  exact hrecords.receive_listRules hreached

/-- One rule is created, and then the rules are listed. -/
theorem listing_eq_created_of_one :
    let rule : Rule := ⟨"r", "age > 30", .atom ⟨"age", ">", .number (.int 30)⟩⟩
    let server := ofTables .empty
    let told := server.receive (.creation rule.name rule.text)
    let listed := told.server.receive .listing
    told.response.status = 201 ∧ listed.response.status = 200 ∧
      listed.response.payload = .document (.list [rule.shown]) := by
  intro rule server told listed
  have hcontent : (Request.creation "r" "age > 30").content = .ok (.document (.object
      [("ruleName", .text "r"), ("ruleString", .text "age > 30")])) := by rfl
  have hscan : Token.scan "age > 30" =
      [⟨.name, "age", 0⟩, ⟨.comparison, ">", 4⟩, ⟨.number, "30", 6⟩] := by decide +kernel
  have hread : Formula.ofText? rule.text Settings.default.policy.maxDepth = .ok rule.formula := by
    rw [Formula.ofText?, hscan]
    rfl
  have hrule : (Request.creation rule.name rule.text).Proposes Settings.default.policy rule :=
    ⟨⟨_, hcontent, rfl⟩, hread⟩
  have htaken : server.TakesUp rule told :=
    takesUp_creation hrule (by decide) (by decide) (by decide)
  have htold := htaken.told
  rw [if_pos (by decide +kernel)] at htold
  obtain ⟨hstatus, hpayload⟩ := htold
  have hfresh : server.IsFresh := ⟨Settings.checkDatabase_default, rfl, rfl⟩
  have hcreation : (Request.creation rule.name rule.text).reached? server.settings =
      some .createRule := Request.reached?_creation ..
  have hlisting : Request.listing.reached? server.settings = some .listRules :=
    Request.reached?_listing
  have hhistory : server.history [.creation rule.name rule.text, .listing] =
      [(.creation rule.name rule.text, told)] ++ (.listing, listed) :: [] := rfl
  -- from here on it does not matter how the responses came about
  clear_value listed told server
  have hcreations : ∀ entry ∈ server.history [.creation rule.name rule.text, .listing],
      entry.1.reached? server.settings = some .createRule → entry.2.response.status ≠ 500 := by
    rw [hhistory]
    refine List.forall_mem_cons.mpr ⟨fun _ => ?_, List.forall_mem_singleton.mpr fun hreached => ?_⟩
    · simp [hstatus]
    · rw [hlisting] at hreached
      exact nomatch hreached
  obtain ⟨hlisted, bodies, hcreated, hbodies⟩ :=
    listing_eq_created hfresh _ hcreations _ _ _ hhistory hlisting
  have htold : toldCreated server.settings (.creation rule.name rule.text, told) = true :=
    toldCreated_iff.mpr ⟨hcreation, hstatus⟩
  have hone : bodies.map Payload.document = [.document rule.shown] := by
    rw [← hcreated, ← hpayload]
    simp [created, htold]
  obtain ⟨body, rfl, hbody⟩ := List.map_eq_singleton_iff.mp hone
  obtain rfl := Payload.document.inj hbody
  exact ⟨hstatus, hlisted, hbodies⟩

end Server

end Eligibility

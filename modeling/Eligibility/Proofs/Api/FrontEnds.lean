import Eligibility.CommandLine.Report
import Eligibility.Proofs.Api.Creation
import Eligibility.Proofs.Api.Routing
import Eligibility.Proofs.Document.Bytes
import Eligibility.Proofs.Rule.Safety

/-!
# Three ways to evaluate a rule

A rule that a request created can be evaluated under its name, by the document that the creation was
answered with, and as a text on the command line. All three come to the outcome of one formula: the
row of the rule stays in the table whatever is asked for later (`Offers.after`), its document is
read again from its written form (`Request.content_posting`) and decodes to the formula, and the
command reads the text under the same settings. What is shown has no control sequences that the
command line would leave out, because the operators come from the scanner
(`Formula.isQuiet_of_evaluate`). So the three agree if the formula has an outcome, and all of them
fail if it has none (`front_ends_agree`, `front_ends_fail_of_long_text`).
-/

namespace Eligibility

/-! ## Text without control sequences -/

theorem Text.dropSequences_of_not_mem {cs : List Char} (h : '\x1b' ∉ cs) :
    dropSequences 0 cs = cs := by
  induction cs with
  | nil => rfl
  | cons c cs ih =>
      obtain ⟨hc, hcs⟩ : '\x1b' ≠ c ∧ '\x1b' ∉ cs := by simpa using h
      rw [dropSequences, if_neg hc.symm, ih hcs]

theorem Text.withoutSequences_of_not_mem {s : String} (h : '\x1b' ∉ s.toList) :
    withoutSequences s = s := by
  rw [withoutSequences, dropSequences_of_not_mem h, String.ofList_toList]

namespace Outcome

/-- The outcome is shown without escapes, with which control sequences begin. -/
def IsQuiet (outcome : Outcome) : Prop := '\x1b' ∉ outcome.display.toList

instance (outcome : Outcome) : Decidable outcome.IsQuiet :=
  inferInstanceAs (Decidable (_ ∉ outcome.display.toList))

theorem isQuiet_ofBool (b : Bool) : (ofBool b).IsQuiet := by
  cases b <;> decide

theorem IsQuiet.join {left right : Outcome} (hleft : left.IsQuiet) (hright : right.IsQuiet)
    (op : Connective) : (left.join op right).IsQuiet := by
  cases left with
  | error e => exact hleft
  | _ =>
      cases right with
      | error e => exact hright
      | _ => cases op <;> exact isQuiet_ofBool _

end Outcome

theorem Comparison.isQuiet_of_evaluate {c : Comparison} {record : Record} {outcome : Outcome}
    (hoperator : c.operator ∈ Token.signs) (h : c.evaluate record = .ok outcome) :
    outcome.IsQuiet := by
  have hnumbers : ∀ operator ∈ Token.signs,
      (Outcome.error (.requiresNumbers operator)).IsQuiet := by decide
  have hunknown : ∀ operator ∈ Token.signs,
      (Outcome.error (.unknownOperator operator)).IsQuiet := by decide
  unfold evaluate at h
  split at h
  · obtain rfl := Except.ok.inj h
    decide
  · unfold test at h
    split at h
    · split at h
      · obtain rfl := Except.ok.inj h
        exact Outcome.isQuiet_ofBool _
      · obtain rfl := Except.ok.inj h
        exact hnumbers _ hoperator
    · split at h
      · obtain ⟨holds, -, rfl⟩ := exists_of_map_eq_ok h
        exact Outcome.isQuiet_ofBool _
      · obtain rfl := Except.ok.inj h
        exact hunknown _ hoperator

/-- A formula that was read from a text is evaluated without escapes. -/
theorem Formula.isQuiet_of_evaluate {f : Formula} {record : Record} {outcome : Outcome}
    (hoperators : ∀ c ∈ f.comparisons, c.operator ∈ Token.signs)
    (h : f.evaluate record = .ok outcome) : outcome.IsQuiet := by
  induction f generalizing outcome with
  | atom c =>
      rw [evaluate_atom] at h
      exact Comparison.isQuiet_of_evaluate (hoperators c (by simp)) h
  | join op left right ihl ihr =>
      rw [comparisons_join] at hoperators
      obtain ⟨hleft, hright⟩ := List.forall_mem_append.mp hoperators
      rw [evaluate_join] at h
      obtain ⟨a, b, ha, hb, rfl⟩ := Outcome.exists_of_joinResults_eq_ok h
      exact (ihl hleft ha).join (ihr hright hb) op

/-- The document of a formula is an object. -/
theorem Formula.exists_toValue_eq_object (f : Formula) : ∃ fields, f.toValue = .object fields := by
  unfold toValue
  cases f with
  | atom c => exact ⟨_, fold_atom ..⟩
  | join op left right => exact ⟨_, fold_join ..⟩

theorem Formula.isTidy_joinValue {op : Connective} {left right : Value} (hleft : left.IsTidy)
    (hright : right.IsTidy) : (joinValue op left right).IsTidy := by
  simp [joinValue, Value.IsTidy, Value.HasTidy, hleft, hright]

theorem Literal.isTidy_toValue {l : Literal} (h : l.isWritable = true) : l.toValue.IsTidy := by
  cases l with
  | text s => trivial
  | number n =>
      cases n with
      | int i => exact h
      | double x => trivial

/-- No object in the document of a formula repeats a name. -/
theorem Formula.isTidy_toValue {f : Formula} (h : f.isWritable = true) : f.toValue.IsTidy := by
  rw [isWritable, List.all_eq_true] at h
  unfold toValue
  induction f with
  | atom c =>
      have hvalue := Literal.isTidy_toValue (h c (by simp))
      rw [fold_atom]
      simp [comparisonValue, Value.IsTidy, Value.HasTidy, hvalue]
  | join op left right ihl ihr =>
      rw [comparisons_join] at h
      obtain ⟨hleft, hright⟩ := List.forall_mem_append.mp h
      rw [fold_join]
      exact isTidy_joinValue (ihl hleft) (ihr hright)

/-! ## Evaluations in responses -/

theorem Value.allFinite_ofEvaluation (e : Evaluation) :
    (Value.ofEvaluation e).allFinite = true := by
  cases hreason : e.outcome.reason? <;>
    simp [ofEvaluation, hreason, Value.ofText?, allFinite, allFiniteFields]

namespace Handler

variable {s : Session}

/-- What an evaluation is answered with. -/
def answered (text : String) (result : Except Number.ConversionError Outcome) :
    Except Failure Response :=
  (result.map fun outcome => .plain 200 (.document (.ofEvaluation ⟨text, outcome⟩))).mapError
    (.rule ∘ .number)

theorem ends_respond_evaluation (e : Evaluation) (s : Session) :
    (respond 200 (.ofEvaluation e)).Ends s (.ok (.plain 200 (.document (.ofEvaluation e)))) s := by
  have hrespond := ends_respond 200 (.ofEvaluation e) s
  rwa [if_pos (Value.allFinite_ofEvaluation _)] at hrespond

/-- A stored rule that can be read is evaluated. -/
theorem ends_evaluateRule {row : RuleRow} {rule : Rule} (hrow : s.rule? rule.name = some row)
    (hrule : Rule.ofRow? row = .ok rule) (body : EvaluateRule) :
    (evaluateRule rule.name body).Ends s
      (answered rule.text (rule.formula.evaluate body.data)) s := by
  have hevaluated : (RuleBook.evaluate rule.name body.data).Ends s
      (RuleBook.evaluated body.data rule) s :=
    RuleBook.ends_evaluate (Session.findRule_of_row hrow hrule) body.data
  cases hresult : rule.formula.evaluate body.data with
  | error e =>
      rw [RuleBook.evaluated_of_error hresult] at hevaluated
      exact hevaluated.attempt.bind ⟨_, rfl⟩
  | ok outcome =>
      rw [RuleBook.evaluated_of_ok hresult] at hevaluated
      exact hevaluated.attempt.bind (ends_respond_evaluation ⟨rule.text, outcome⟩ s)

/-- A document that is a formula is evaluated. -/
theorem ends_evaluateDocument {body : EvaluateDocument} {f : Formula}
    (hdocument : Formula.ofValue? (.object body.document) = .ok f) (s : Session) :
    (evaluateDocument body).Ends s (answered "" (f.evaluate body.data)) s := by
  have houtcome : documentOutcome body = f.evaluate body.data := by
    rw [documentOutcome, hdocument]
  unfold evaluateDocument
  rw [houtcome]
  cases f.evaluate body.data with
  | error e => exact (Action.ends_ofExcept _ s).bind_error _
  | ok outcome => exact (Action.ends_ofExcept _ s).bind (ends_respond_evaluation ⟨"", outcome⟩ s)

end Handler

namespace Response

/-- The value of a field of the document in a response. -/
def field? (response : Response) (key : String) : Option Value :=
  match response.payload with
  | .document (.object fields) => Fields.get? fields key
  | _ => none

/-- The request went well, and the response tells how an evaluation is shown to people and the word
for its outcome. -/
structure Tells (response : Response) (shown word : String) : Prop where
  status : response.status = 200
  shown : response.field? "result" = some (.text shown)
  word : response.field? "outcome" = some (.text word)

/-- The response tells the outcome of an evaluation, or that the request failed if there is none. -/
def Reports (response : Response) : Except Number.ConversionError Outcome → Prop
  | .ok outcome => response.Tells outcome.display outcome.word
  | .error _ => response.status = 500

/-- A response that reports an evaluation does not say that there is nothing to be evaluated. -/
theorem Reports.status_ne {response : Response} {result : Except Number.ConversionError Outcome}
    (h : response.Reports result) : response.status ≠ 404 := by
  cases result with
  | error e =>
      rw [show response.status = 500 from h]
      decide
  | ok outcome =>
      rw [Tells.status h]
      decide

end Response

/-! ## Requests for evaluations -/

namespace Request

variable {settings : Settings} {request : Request} {name : String} {record : Record}

/-- The request asks for the stored rule of a name to be evaluated on a record. -/
def AsksForRule (request : Request) (settings : Settings) (name : String) (record : Record) :
    Prop :=
  ∃ named body, request.reached? settings = some (.evaluateRule named) ∧
    request.content = .ok body ∧ Server.namedEvaluation request named body = .ok (name, ⟨record⟩)

/-- The request asks for a document that is not stored to be evaluated on a record. -/
def AsksForDocument (request : Request) (settings : Settings) (document : Value)
    (record : Record) : Prop :=
  ∃ fields body, document = .object fields ∧ request.reached? settings = some .evaluateDocument ∧
    request.content = .ok body ∧ body.checked EvaluateDocument.ofFields = .ok ⟨fields, record⟩

/-- The request posts an object to a path. -/
structure Posts (request : Request) (path : String) (fields : Fields) : Prop where
  method : request.method = "POST"
  path : Path.ofTarget request.target = path
  content : request.content = .ok (.document (.object fields))

/-- A request that posts an object in its written form. -/
def posting (target : String) (fields : Fields) : Request :=
  ⟨"POST", target, [("Content-Type", "application/json")], (Value.object fields).write⟩

/-- What is posted in its written form is read again. -/
theorem content_posting (target : String) {fields : Fields} (h : (Value.object fields).IsTidy) :
    (posting target fields).content = .ok (.document (.object fields)) := by
  have hempty : (posting target fields).body.isEmpty = false := by
    rw [Bool.eq_false_iff]
    intro hempty
    -- nothing is read from an empty text
    have hread : Document.read? (Value.object fields).write = .ok (.object fields) :=
      Document.read?_write h
    have hmalformed : Document.read? "" = .error .malformed := rfl
    rw [show (Value.object fields).write = "" from String.isEmpty_iff.mp hempty,
      hmalformed] at hread
    cases hread
  have hdocument : (posting target fields).hasDocument = true := by
    have hnone : (posting "" []).hasDocument = true := by decide +kernel
    exact hnone
  rw [content, hempty, if_neg Bool.false_ne_true, if_pos hdocument]
  simp only [posting, Document.textOfBody?_write, Document.read?_write h]

/-- A request that posts an object in its written form posts the object. -/
theorem posts_posting (target : String) {fields : Fields} (h : (Value.object fields).IsTidy) :
    (posting target fields).Posts (Path.ofTarget target) fields :=
  ⟨rfl, rfl, content_posting target h⟩

/-- A creation with a name that is neither empty nor too long proposes a rule of this name. -/
theorem proposes_creation {policy : Policy} {rule : Rule} (hname : rule.name ≠ "")
    (hlength : rule.name.length ≤ maxNameLength)
    (hread : Formula.ofText? rule.text policy.maxDepth = .ok rule.formula) :
    (creation rule.name rule.text).Proposes policy rule := by
  have htext : rule.text ≠ "" := Formula.text_ne_empty_of_ofText? hread
  refine ⟨⟨_, content_posting "/api/v1/rules" ⟨by simp, trivial, trivial, trivial⟩, ?_⟩, hread⟩
  have hsizedName : Checked.sizedText (some maxNameLength) (.text rule.name) = .ok rule.name := by
    have hshort : ¬ maxNameLength < rule.name.length := by omega
    simp [Checked.sizedText, Checked.text, Checked.andThen, hname, hshort]
  have hsizedText : Checked.sizedText none (.text rule.text) = .ok rule.text := by
    simp [Checked.sizedText, Checked.text, Checked.andThen, htext]
  show Checked.inside "body" (Checked.seq (Checked.seq (.ok CreateRule.mk)
    ((Checked.sizedText (some maxNameLength) (.text rule.name)).inside "ruleName"))
    ((Checked.sizedText none (.text rule.text)).inside "ruleString")) = _
  rw [hsizedName, hsizedText]
  rfl

theorem optional_data {fields : Fields} (hdata : fields.get? "data" = some (.object record)) :
    Checked.optional fields "data" "data" [] Checked.fields = .ok record := by
  unfold Checked.optional Checked.named?
  rw [hdata]
  rfl

/-- A record that is posted to the path of a rule asks for the evaluation of the rule. -/
theorem Posts.asksForRule {fields : Fields} (hplain : Template.IsPlain settings.apiPrefix.toList)
    (h : request.Posts (Route.rulePath (Route.rulesPath settings) name) fields)
    (hne : name ≠ "") (hsegment : '/' ∉ name.toList)
    (hdata : fields.get? "data" = some (.object record)) :
    request.AsksForRule settings name record := by
  refine ⟨some name, _, reached?_evaluateRule hplain h.method h.path hne hsegment, h.content, ?_⟩
  show Checked.seq (.ok (Prod.mk name)) ((EvaluateRule.ofFields fields).inside "body") = _
  unfold EvaluateRule.ofFields
  rw [optional_data hdata]
  rfl

/-- A document and a record that are posted to the path for formulas that are not stored ask for the
evaluation of the document. -/
theorem Posts.asksForDocument {fields document : Fields}
    (hplain : Template.IsPlain settings.apiPrefix.toList)
    (h : request.Posts (Route.rulesPath settings ++ "/evaluate-ast") fields)
    (hdocument : fields.get? "ast" = some (.object document))
    (hdata : fields.get? "data" = some (.object record)) :
    request.AsksForDocument settings (.object document) record := by
  refine ⟨document, _, rfl, reached?_evaluateDocument hplain h.method h.path, h.content, ?_⟩
  show (EvaluateDocument.ofFields fields).inside "body" = _
  have hrequired : Checked.required fields "ast" "ast" Checked.fields = .ok document := by
    unfold Checked.required Checked.named?
    rw [hdocument]
    rfl
  unfold EvaluateDocument.ofFields
  rw [hrequired, optional_data hdata]
  rfl

/-- A record that is posted in its written form to the usual path of a rule. -/
theorem asksForRule_posting (hrecord : (Value.object record).IsTidy) :
    (posting "/api/v1/rules/r/evaluate" [("data", .object record)]).AsksForRule .default "r"
      record := by
  have hfields : (Value.object [("data", .object record)]).IsTidy := ⟨by simp, hrecord, trivial⟩
  have hposts := posts_posting "/api/v1/rules/r/evaluate" hfields
  exact hposts.asksForRule (by decide) (by decide) (by decide) rfl

/-- A formula and a record that are posted in their written forms to the usual path. -/
theorem asksForDocument_posting {f : Formula} (hf : f.isWritable = true)
    (hrecord : (Value.object record).IsTidy) :
    (posting "/api/v1/rules/evaluate-ast" [("ast", f.toValue), ("data", .object record)])
      |>.AsksForDocument .default f.toValue record := by
  have hfields : (Value.object [("ast", f.toValue), ("data", .object record)]).IsTidy :=
    ⟨by simp, Formula.isTidy_toValue hf, hrecord, trivial⟩
  have hposts := posts_posting "/api/v1/rules/evaluate-ast" hfields
  obtain ⟨document, hdocument⟩ := Formula.exists_toValue_eq_object f
  rw [hdocument] at hposts ⊢
  exact hposts.asksForDocument (by decide) rfl rfl

end Request

/-! ## A rule that stays -/

namespace Server

variable {settings : Settings} {server : Server} {rule : Rule} {request : Request}
  {record : Record}

/-- The server after some requests. -/
def after (server : Server) (requests : List Request) : Server :=
  requests.foldl (fun server request => (server.receive request).server) server

/-- The database is there, and the row that is found under the name of a rule is that of the rule.
-/
structure Offers (settings : Settings) (rule : Rule) (server : Server) : Prop where
  settings_eq : server.settings = settings
  reachable : settings.checkDatabase = .ok ()
  hasTables : server.hasTables = true
  row : (Session.ofTables server.tables).rule? rule.name = some rule.toRow

/-- What is found under a name is found after rows have been added. -/
theorem rule?_append {tables tables' : Tables} {rows : List RuleRow}
    (h : tables'.rules = tables.rules ++ rows) {name : String} {row : RuleRow}
    (hrow : (Session.ofTables tables).rule? name = some row) :
    (Session.ofTables tables').rule? name = some row := by
  show tables'.rules.find? _ = _
  rw [h, List.find?_append, Option.or_eq_some_iff]
  exact .inl hrow

/-- A request adds rules at most. -/
theorem exists_rules_receive (server : Server) (request : Request) :
    (server.receive request).server.settings = server.settings ∧
      (server.receive request).server.hasTables = server.hasTables ∧
      ∃ rows, (server.receive request).server.tables.rules = server.tables.rules ++ rows := by
  by_cases hreached : request.reached? server.settings = some .createRule
  · rcases receive_createRule_cases hreached with hdeclined | ⟨rule, -, -, htaken⟩
    · exact ⟨hdeclined.settings, hdeclined.hasTables, [], by rw [hdeclined.tables, List.append_nil]⟩
    · exact ⟨htaken.settings, htaken.hasTables, [rule.toRow], by rw [htaken.tables]; rfl⟩
  · have hshown := shown_receive hreached
    obtain ⟨hsettings, hhas, hrules⟩ : (server.receive request).server.settings = server.settings ∧
        (server.receive request).server.hasTables = server.hasTables ∧
        (server.receive request).server.tables.rules = server.tables.rules := by
      simpa [shown] using hshown
    exact ⟨hsettings, hhas, [], by rw [hrules, List.append_nil]⟩

theorem Offers.step (h : Offers settings rule server) (request : Request) :
    Offers settings rule (server.receive request).server := by
  obtain ⟨hsettings, hhas, rows, hrules⟩ := exists_rules_receive server request
  exact ⟨hsettings.trans h.settings_eq, h.reachable, hhas.trans h.hasTables,
    rule?_append hrules h.row⟩

theorem Offers.after (h : Offers settings rule server) (requests : List Request) :
    Offers settings rule (server.after requests) := by
  induction requests generalizing server with
  | nil => exact h
  | cons request requests ih => exact ih (h.step request)

/-- A rule that was taken up is offered. -/
theorem TakesUp.offers {e : Exchange} (h : server.TakesUp rule e) :
    Offers server.settings rule e.server := by
  refine ⟨h.settings, h.reachable, h.hasTables.trans h.ready, ?_⟩
  have hfree : (Session.ofTables server.tables).rule? rule.name = none :=
    Session.rule?_eq_none_iff.mpr h.free
  rw [h.tables]
  exact Session.rule?_of_concat rule.toRow rfl hfree

section Responses

variable {result : Except Failure Response} {server' : Server}

/-- The response to a request for an evaluation. -/
theorem reports_of_ends {text : String} {evaluated : Except Number.ConversionError Outcome}
    (h : (dispatch request).Ends server (Handler.answered text evaluated) server') :
    (server.receive request).response.Reports evaluated := by
  obtain ⟨lines, correlation, heq⟩ := receive_of_ends h
  rw [heq]
  cases evaluated with
  | error e => rfl
  | ok outcome => exact ⟨rfl, rfl, rfl⟩

/-- A rule that is offered is evaluated on request. -/
theorem Offers.reports_rule (h : Offers settings rule server) (hname : rule.name ≠ "")
    (htext : rule.text ≠ "") (hasks : request.AsksForRule settings rule.name record) :
    (server.receive request).response.Reports (rule.formula.evaluate record) := by
  obtain ⟨rfl, hreachable, htables, hrow⟩ := h
  obtain ⟨named, body, hreached, hcontent, hchecked⟩ := hasks
  obtain ⟨engine, sessions, hends⟩ := ends_handleBody (namedEvaluation request named)
    (fun asked => some (.named .rules asked.1))
    (fun asked => Handler.evaluateRule asked.1 asked.2) hreachable htables hcontent hchecked
  have hwork := Handler.ends_evaluateRule hrow (Rule.ofRow?_toRow hname htext) ⟨record⟩
  rw [hwork.result_eq] at hends
  exact reports_of_ends (ends_dispatch hreached hends)

/-- The document of a formula is evaluated on request. -/
theorem Offers.reports_document (h : Offers settings rule server) {f : Formula}
    (hasks : request.AsksForDocument settings f.toValue record) :
    (server.receive request).response.Reports (f.evaluate record) := by
  obtain ⟨rfl, hreachable, htables, -⟩ := h
  obtain ⟨fields, body, hfields, hreached, hcontent, hchecked⟩ := hasks
  obtain ⟨engine, sessions, hends⟩ := ends_handleBody (·.checked EvaluateDocument.ofFields)
    (fun _ => none) Handler.evaluateDocument hreachable htables hcontent hchecked
  have hformula : Formula.ofValue? (.object fields) = .ok f := hfields ▸ Formula.ofValue?_toValue f
  have hwork : (Handler.evaluateDocument ⟨fields, record⟩).Ends (.ofTables server.tables) _ _ :=
    Handler.ends_evaluateDocument hformula _
  rw [hwork.result_eq] at hends
  exact reports_of_ends (ends_dispatch hreached hends)

end Responses

end Server

/-! ## The command line -/

namespace CommandLine

variable {env : Variables} {settings : Settings} {text data : String} {f : Formula}
  {record : Record}

theorem Command.withFormula_of_ok (hsettings : Settings.read env [] = .ok settings)
    (hread : Formula.ofText? text settings.maxRuleDepth.toNat = .ok f) (status : Nat)
    (work : Formula → Except CommandError Report) : withFormula env status text work = work f := by
  have hfound : Command.settings env = .ok settings := by
    rw [Command.settings, hsettings]
    rfl
  simp only [withFormula, hfound, bind, Except.bind, hread]

/-- How the command that evaluates a rule ends. -/
def reported (result : Except Number.ConversionError Outcome) : Except CommandError Report :=
  (result.map fun outcome => ⟨statusOf outcome, outcome.display ++ "\n", "", none⟩).mapError .number

/-- The command shows the outcome of a rule and ends with its status. -/
theorem Command.printOutcome_of_formula (hsettings : Settings.read env [] = .ok settings)
    (hread : Formula.ofText? text settings.maxRuleDepth.toNat = .ok f)
    (hdata : Document.read? data = .ok (.object record))
    (hquiet : ∀ outcome, f.evaluate record = .ok outcome → outcome.IsQuiet) :
    printOutcome env text data = reported (f.evaluate record) := by
  unfold printOutcome
  rw [hdata]
  show withFormula env 2 text _ = _
  rw [withFormula_of_ok hsettings hread]
  cases houtcome : f.evaluate record with
  | error e => rfl
  | ok outcome =>
      have hshown : '\x1b' ∉ (outcome.display ++ "\n").toList := by
        simpa [Outcome.IsQuiet] using hquiet outcome houtcome
      show Except.ok (Report.written _ _) = _
      rw [Report.written, Text.withoutSequences_of_not_mem hshown]
      rfl

/-- Each command line that evaluates a rule against a record ends in one way under the settings. -/
def Evaluates (settings : Settings) (text : String) (record : Record)
    (result : Except CommandError Report) : Prop :=
  ∀ env input words data, Settings.read env [] = .ok settings →
    Document.read? data = .ok (.object record) →
    Invocation.ofWords? words = .ok (.command (.evaluate text data)) →
    run env input words = result

/-- A rule whose text was read is evaluated on the command line. -/
theorem evaluates_of_ofText? (hread : Formula.ofText? text settings.policy.maxDepth = .ok f)
    (record : Record) : Evaluates settings text record (reported (f.evaluate record)) := by
  intro env input words data hsettings hdata hwords
  rw [run, hwords]
  refine Command.printOutcome_of_formula hsettings hread hdata fun outcome houtcome => ?_
  refine Formula.isQuiet_of_evaluate (fun c hc => ?_) houtcome
  exact (Formula.spellable_of_ofText? hread c hc).operator_mem

theorem ofWords?_evaluate (text data : String) :
    Invocation.ofWords? ["evaluate", "--data", data, "--", text] =
      .ok (.command (.evaluate text data)) := rfl

end CommandLine

namespace Server

theorem mem_words_statuses (outcome : Outcome) :
    (outcome.word, CommandLine.statusOf outcome) ∈
      [("passed", 0), ("failed", 1), ("error", 2)] := by
  cases outcome <;> simp [Outcome.word, CommandLine.statusOf]

/-- What a request was told that created a rule. -/
theorem exists_of_created {server : Server} {creation : Request} {name text : String}
    (hreached : creation.reached? server.settings = some .createRule)
    (hasked : ∃ body, creation.content = .ok body ∧
      body.checked CreateRule.ofFields = .ok ⟨name, text⟩)
    (hcreated : (server.receive creation).response.status = 201) :
    ∃ f, name ≠ "" ∧ Formula.ofText? text server.settings.policy.maxDepth = .ok f ∧
      server.TakesUp ⟨name, text, f⟩ (server.receive creation) ∧
      (server.receive creation).response.field? "ast" = some f.toValue := by
  rcases receive_createRule_cases hreached with hdeclined | ⟨rule, hrule, hname, htaken⟩
  · exact absurd hcreated hdeclined.status_ne
  · obtain ⟨body, hcontent, hchecked⟩ := hasked
    obtain ⟨body', hcontent', hchecked'⟩ := hrule.body
    obtain rfl : body = body' := Except.ok.inj (hcontent.symm.trans hcontent')
    have hsame : (⟨name, text⟩ : CreateRule) = ⟨rule.name, rule.text⟩ :=
      Checked.ok.inj (hchecked.symm.trans hchecked')
    obtain ⟨rfl, rfl⟩ := CreateRule.mk.inj hsame
    have htold := htaken.told
    split at htold
    · refine ⟨rule.formula, hname, hrule.read, htaken, ?_⟩
      rw [Response.field?, htold.2]
      rfl
    · rw [hcreated] at htold
      exact absurd htold (by decide)

/-- Whatever is asked for in between, each request for the rule of a name or for a document on a
record is answered in one way. -/
def Answers (server : Server) (settings : Settings) (name : String) (document : Value)
    (record : Record) (P : Response → Prop) : Prop :=
  ∀ later request,
    request.AsksForRule settings name record ∨ request.AsksForDocument settings document record →
      P ((server.after later).receive request).response

/-- A rule that was taken up is evaluated on request, under its name and by its document. -/
theorem TakesUp.answers {server : Server} {rule : Rule} {e : Exchange} (h : server.TakesUp rule e)
    (hname : rule.name ≠ "") (htext : rule.text ≠ "") (record : Record) :
    e.server.Answers server.settings rule.name rule.formula.toValue record
      (·.Reports (rule.formula.evaluate record)) := by
  intro later request hasks
  have hoffers := h.offers.after later
  exact hasks.elim (hoffers.reports_rule hname htext) hoffers.reports_document

/-- **The front ends agree where the rule has an outcome.** Let a creation of a rule under a name
and with a text be answered with 201, and take any record. The document that the creation was
answered with is read again from its written form. Unless a comparison of the rule has to read too
many digits, there is one text that is shown to people and one word, with a status that belongs to
it, such that

* each later request for the rule of this name on the record, and each one for the document, is told
  the text and the word, and
* each command line that evaluates the text of the rule against the record shows the same text and
  ends with the status, if the settings of its environment are those of the server.

If some comparison has to read too many digits, all these requests and command lines fail.

Requests of both kinds are what is posted to the usual paths, if the common beginning of the paths
has no braces and the name has word characters only, and there are such command lines whatever the
text is. -/
theorem front_ends_agree {server : Server} {creation : Request} {name text : String}
    (hreached : creation.reached? server.settings = some .createRule)
    (hasked : ∃ body, creation.content = .ok body ∧
      body.checked CreateRule.ofFields = .ok ⟨name, text⟩)
    (hcreated : (server.receive creation).response.status = 201) (record : Record) :
    let told := server.receive creation
    let settings := server.settings
    ∃ ast f,
      told.response.field? "ast" = some ast ∧ Document.read? ast.write = .ok ast ∧
      Formula.ofText? text settings.policy.maxDepth = .ok f ∧
      ((∀ c ∈ f.comparisons, ∀ count, ¬ c.Overreads record count) →
        ∃ shown word status, (word, status) ∈ [("passed", 0), ("failed", 1), ("error", 2)] ∧
          told.server.Answers settings name ast record (·.Tells shown word) ∧
          CommandLine.Evaluates settings text record (.ok ⟨status, shown ++ "\n", "", none⟩)) ∧
      ((∃ c ∈ f.comparisons, ∃ count, c.Overreads record count) →
        told.server.Answers settings name ast record (·.status = 500) ∧
          ∃ e, CommandLine.Evaluates settings text record (.error (.number e))) ∧
      (Template.IsPlain settings.apiPrefix.toList → (∀ c ∈ name.toList, Text.isWordChar c = true) →
        ∀ (request : Request) (fields : Fields), fields.get? "data" = some (.object record) →
          (request.Posts (Route.rulePath (Route.rulesPath settings) name) fields →
            request.AsksForRule settings name record) ∧
          (request.Posts (Route.rulesPath settings ++ "/evaluate-ast") fields →
            fields.get? "ast" = some ast → request.AsksForDocument settings ast record)) ∧
      ∀ data, CommandLine.Invocation.ofWords? ["evaluate", "--data", data, "--", text] =
        .ok (.command (.evaluate text data)) := by
  intro told settings
  obtain ⟨f, hname, hread, htaken, hast⟩ := exists_of_created hreached hasked hcreated
  have hanswers := htaken.answers hname (Formula.text_ne_empty_of_ofText? hread) record
  have hcommand := CommandLine.evaluates_of_ofText? hread record
  have htidy := Formula.isTidy_toValue (Formula.isWritable_of_ofText? hread)
  refine ⟨f.toValue, f, hast, Document.read?_write htidy, hread, ?_, ?_, ?_, ?_⟩
  · intro hreads
    obtain ⟨outcome, houtcome⟩ := Formula.evaluate_eq_ok_iff.mpr hreads
    simp only [houtcome] at hanswers hcommand
    exact ⟨outcome.display, outcome.word, CommandLine.statusOf outcome, mem_words_statuses outcome,
      hanswers, hcommand⟩
  · rintro ⟨c, hc, count, hover⟩
    cases hresult : f.evaluate record with
    | ok outcome => exact absurd hover (Formula.evaluate_eq_ok_iff.mp ⟨outcome, hresult⟩ c hc count)
    | error e =>
        simp only [hresult] at hanswers hcommand
        exact ⟨hanswers, e, hcommand⟩
  · intro hplain hword request fields hdata
    have hsegment : '/' ∉ name.toList := by
      intro hslash
      have hnot : Text.isWordChar '/' = false := by decide
      rw [hword _ hslash] at hnot
      exact nomatch hnot
    refine ⟨fun hposts => hposts.asksForRule hplain hname hsegment hdata, ?_⟩
    intro hposts hdocument
    obtain ⟨fields', hfields⟩ := Formula.exists_toValue_eq_object f
    rw [hfields] at hdocument ⊢
    exact hposts.asksForDocument hplain hdocument hdata
  · exact fun data => CommandLine.ofWords?_evaluate text data

/-- A rule is created, and evaluated in all three ways on one record. -/
theorem front_ends_agree_of_one :
    let rule : Rule := ⟨"r", "age > 30", .atom ⟨"age", ">", .number (.int 30)⟩⟩
    let record : Record := [("age", .number (.int 35))]
    let told := (ofTables .empty).receive (.creation "r" "age > 30")
    let byName := Request.posting "/api/v1/rules/r/evaluate" [("data", .object record)]
    let byDocument := Request.posting "/api/v1/rules/evaluate-ast"
      [("ast", rule.formula.toValue), ("data", .object record)]
    let words := ["evaluate", "--data", "\x7b\"age\":35\x7d", "--", "age > 30"]
    told.response.status = 201 ∧ told.response.field? "ast" = some rule.formula.toValue ∧
      ∃ shown word status, (word, status) ∈ [("passed", 0), ("failed", 1), ("error", 2)] ∧
        (told.server.receive byName).response.Tells shown word ∧
        (told.server.receive byDocument).response.Tells shown word ∧
        CommandLine.run [] [] words = .ok ⟨status, shown ++ "\n", "", none⟩ := by
  intro rule record told byName byDocument words
  have hcontent : (Request.creation "r" "age > 30").content = .ok (.document (.object
      [("ruleName", .text "r"), ("ruleString", .text "age > 30")])) :=
    Request.content_posting "/api/v1/rules" ⟨by simp, trivial, trivial, trivial⟩
  have hscan : Token.scan "age > 30" =
      [⟨.name, "age", 0⟩, ⟨.comparison, ">", 4⟩, ⟨.number, "30", 6⟩] := by decide +kernel
  have hread : Formula.ofText? rule.text Settings.default.policy.maxDepth = .ok rule.formula := by
    rw [Formula.ofText?, hscan]
    rfl
  have hrule : (Request.creation rule.name rule.text).Proposes Settings.default.policy rule :=
    ⟨⟨_, hcontent, rfl⟩, hread⟩
  have htaken : (ofTables .empty).TakesUp rule told :=
    takesUp_creation hrule (by decide) (by decide) (by decide)
  have htold := htaken.told
  rw [if_pos (by decide +kernel)] at htold
  have hreached : (Request.creation "r" "age > 30").reached? (ofTables .empty).settings =
      some .createRule := Request.reached?_creation ..
  obtain ⟨ast, f, hast, -, hf, hagree, -, -, hwords⟩ :=
    front_ends_agree hreached ⟨_, hcontent, rfl⟩ htold.1 record
  have hasts : told.response.field? "ast" = some rule.formula.toValue := by
    rw [Response.field?, htold.2]
    rfl
  obtain rfl : rule.formula.toValue = ast := Option.some.inj (hasts.symm.trans hast)
  obtain rfl : rule.formula = f := Except.ok.inj (hread.symm.trans hf)
  have hreads : ∀ c ∈ rule.formula.comparisons, ∀ count, ¬ c.Overreads record count := by
    intro c hc count hover
    obtain rfl : c = ⟨"age", ">", .number (.int 30)⟩ := by simpa [rule] using hc
    exact absurd hover.1 (by decide)
  obtain ⟨shown, word, status, hstatus, hanswers, hcommand⟩ := hagree hreads
  have hshort : Number.isWritable 35 = true := by decide +kernel
  have hrecord : (Value.object record).IsTidy := ⟨by simp [record], hshort, trivial⟩
  have hwritable := Formula.isWritable_of_ofText? hread
  refine ⟨htold.1, hast, shown, word, status, hstatus, ?_, ?_, ?_⟩
  · exact hanswers [] byName (.inl (Request.asksForRule_posting hrecord))
  · exact hanswers [] byDocument (.inr (Request.asksForDocument_posting hwritable hrecord))
  · exact hcommand [] [] words _ rfl rfl (hwords _)

/-- Where a rule has no outcome on a record, all three ways to evaluate it fail. -/
theorem front_ends_fail_of_error {record : Record} {e : Number.ConversionError}
    (hrecord : (Value.object record).IsTidy)
    (hresult : (Formula.atom ⟨"a", "=", .number (.int 1)⟩).evaluate record = .error e) :
    let rule : Rule := ⟨"r", "a = 1", .atom ⟨"a", "=", .number (.int 1)⟩⟩
    let told := (ofTables .empty).receive (.creation "r" "a = 1")
    let byName := Request.posting "/api/v1/rules/r/evaluate" [("data", .object record)]
    let byDocument := Request.posting "/api/v1/rules/evaluate-ast"
      [("ast", rule.formula.toValue), ("data", .object record)]
    let words := ["evaluate", "--data", (Value.object record).write, "--", "a = 1"]
    told.response.status = 201 ∧ told.response.field? "ast" = some rule.formula.toValue ∧
      (told.server.receive byName).response.status = 500 ∧
      (told.server.receive byDocument).response.status = 500 ∧
      CommandLine.run [] [] words = .error (.number e) := by
  intro rule told byName byDocument words
  have hscan : Token.scan "a = 1" =
      [⟨.name, "a", 0⟩, ⟨.comparison, "=", 2⟩, ⟨.number, "1", 4⟩] := by decide +kernel
  have hread : Formula.ofText? rule.text Settings.default.policy.maxDepth = .ok rule.formula := by
    rw [Formula.ofText?, hscan]
    rfl
  have hrule : (Request.creation rule.name rule.text).Proposes Settings.default.policy rule :=
    Request.proposes_creation (by decide) (by decide) hread
  have htaken : (ofTables .empty).TakesUp rule told :=
    takesUp_creation hrule (by decide) (by decide) (by decide)
  have htold := htaken.told
  rw [if_pos (by decide +kernel)] at htold
  have hanswers := htaken.answers (by decide) (by decide) record
  have hcommand := CommandLine.evaluates_of_ofText? hread record
  rw [hresult] at hanswers hcommand
  have hast : told.response.field? "ast" = some rule.formula.toValue := by
    rw [Response.field?, htold.2]
    rfl
  refine ⟨htold.1, hast, ?_, ?_, ?_⟩
  · exact hanswers [] byName (.inl (Request.asksForRule_posting hrecord))
  · exact hanswers [] byDocument (.inr
      (Request.asksForDocument_posting (Formula.isWritable_of_ofText? hread) hrecord))
  · exact hcommand [] [] words _ rfl (Document.read?_write hrecord)
      (CommandLine.ofWords?_evaluate _ _)

/-- A rule compares with a number, and a record has a text of too many digits. All three ways to
evaluate the rule on it fail. -/
theorem front_ends_fail_of_long_text :
    let rule : Rule := ⟨"r", "a = 1", .atom ⟨"a", "=", .number (.int 1)⟩⟩
    let record : Record := [("a", .text (String.ofList (List.replicate 4301 '1')))]
    let told := (ofTables .empty).receive (.creation "r" "a = 1")
    let byName := Request.posting "/api/v1/rules/r/evaluate" [("data", .object record)]
    let byDocument := Request.posting "/api/v1/rules/evaluate-ast"
      [("ast", rule.formula.toValue), ("data", .object record)]
    let words := ["evaluate", "--data", (Value.object record).write, "--", "a = 1"]
    told.response.status = 201 ∧ told.response.field? "ast" = some rule.formula.toValue ∧
      (told.server.receive byName).response.status = 500 ∧
      (told.server.receive byDocument).response.status = 500 ∧
      CommandLine.run [] [] words = .error (.number (.tooManyDigits 4301)) := by
  have hrecord (s : String) : (Value.object [("a", .text s)]).IsTidy := ⟨by simp, trivial, trivial⟩
  have hresult := Formula.evaluate_of_read_error
    (Number.Numeral.isNumericText_ones (k := 4301) (by decide))
    (Number.Numeral.read_ones (by decide)) "a" (.int 1)
  exact front_ends_fail_of_error (hrecord _) hresult

end Server

end Eligibility

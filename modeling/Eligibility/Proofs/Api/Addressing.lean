import Eligibility.Proofs.Api.FrontEnds
import Eligibility.Proofs.Document.Checked
import Eligibility.Proofs.Text.Escaping
import Mathlib.Data.List.TakeWhile

/-!
# Rules under their names

A stored rule is evaluated on a path that holds its name, and a target holds the name in a written
form, with escapes where they are needed. Escapes are read before the path is taken apart. So any
written form of a name without a slash is one segment, and the request reaches the rule. A slash in
a name separates segments even if it is written as an escape: the path then has more slashes than
any route, and leads nowhere. Of the rules that were created, exactly those without a slash in their
name can be evaluated under it (`addressable_iff`).
-/

namespace Eligibility

namespace Path

variable {part front segment text text' rules name : String}

/-- A part of a target stands for a text, and nothing in it ends the path. -/
structure Writes (part text : String) : Prop where
  stays : ∀ c ∈ part.toList, c ≠ '?' ∧ c ≠ '#'
  reads : Text.unescaped part.toList = text

theorem writes_of_all (hstays : (part.toList.all fun c => c != '?' && c != '#') = true)
    (hreads : Text.unescaped part.toList = text) : Writes part text := by
  refine ⟨fun c hc => ?_, hreads⟩
  simpa using List.all_eq_true.mp hstays c hc

theorem Writes.ofTarget_eq (h : Writes part text) : ofTarget part = text := by
  have hwhole : (part.toList.takeWhile fun c => !(c == '?' || c == '#')) = part.toList := by
    rw [List.takeWhile_eq_self_iff]
    intro c hc
    simpa using h.stays c hc
  rw [ofTarget, hwhole, h.reads]

/-- Both sides of a slash are written apart. -/
theorem Writes.slash (hfront : Writes front text) (hpart : Writes part text') :
    Writes (front ++ "/" ++ part) (text ++ "/" ++ text') := by
  have hchars : (front ++ "/" ++ part).toList = front.toList ++ '/' :: part.toList := by
    simp
  refine ⟨?_, ?_⟩
  · rw [hchars]
    refine List.forall_mem_append.mpr ⟨hfront.stays, List.forall_mem_cons.mpr ⟨?_, hpart.stays⟩⟩
    decide
  · rw [hchars, Text.unescaped_append_slash, hfront.reads, hpart.reads]

/-- A text that is written with escapes stands for itself. -/
theorem writes_escaped {more : List Char} (h : '%' ∉ more ∧ '?' ∉ more ∧ '#' ∉ more)
    (text : String) : Writes (Text.escaped more text) text := by
  obtain ⟨hpercent, hquestion, hhash⟩ := h
  refine ⟨fun c hc => ?_, Text.unescaped_escaped hpercent text⟩
  rcases Text.needsNoEscape_of_mem_escaped hc with rfl | hplain
  · decide
  · constructor
    · rintro rfl
      simp [Text.needsNoEscape, hquestion] at hplain
    · rintro rfl
      simp [Text.needsNoEscape, hhash] at hplain

theorem slash_not_mem_escaped (text : String) : '/' ∉ (Text.escaped [] text).toList := by
  intro hmem
  have hneeds := Text.needsNoEscape_of_mem_escaped hmem
  revert hneeds
  decide

/-- The target on which a rule is evaluated, of the written forms of the path of the rules and the
name of the rule. -/
def ruleTarget (front segment : String) : String := front ++ "/" ++ segment ++ "/evaluate"

theorem ofTarget_ruleTarget (hfront : Writes front rules) (hsegment : Writes segment name) :
    ofTarget (ruleTarget front segment) = Route.rulePath rules name := by
  have hevaluate : Writes "evaluate" "evaluate" :=
    writes_of_all (by decide) (by decide +kernel)
  have hwrites := (hfront.slash hsegment).slash hevaluate
  simpa [ruleTarget, Route.rulePath, String.append_assoc] using hwrites.ofTarget_eq

end Path

/-- With a slash in the name, the path of a rule leads nowhere. -/
theorem Route.destination_rulePath_of_slash {s : Settings} {name : String}
    (hplain : Template.IsPlain s.apiPrefix.toList) (hslash : '/' ∈ name.toList) (method : String) :
    destination (all s) method (rulePath (rulesPath s) name) = .nowhere := by
  have hcount : 0 < name.toList.count '/' := List.count_pos_iff.mpr hslash
  have hlast : (rulePath (rulesPath s) name).toList.getLast? = some 'e' := by
    simp [rulePath, List.getLast?_cons]
  refine destination_of_deep hplain ?_ ?_ ?_ method
  · rw [hlast]
    decide
  · rw [hlast]
    decide
  · have hown : "/rules".toList.count '/' = 1 ∧ "/".toList.count '/' = 1 ∧
        "/evaluate".toList.count '/' = 1 := by decide
    simp only [rulePath, rulesPath, String.toList_append, List.count_append, hown]
    omega

namespace Server

variable {settings : Settings} {server : Server} {rule : Rule} {request : Request}

/-- A request that is posted to a path that leads nowhere is told so. -/
theorem status_of_nowhere (hplain : Template.IsPlain server.settings.apiPrefix.toList)
    (hmethod : request.method = "POST")
    (hnowhere : Route.destination (Route.all server.settings) "POST"
      (Path.ofTarget request.target) = .nowhere) :
    (server.receive request).response.status = 404 := by
  have hroute : (route request).Ends server (.ok (.detail 404 "Not Found")) server := by
    refine .bind ⟨_, rfl⟩ (ends_routes_of_ok (Request.checkRoutes_of_plain hplain request) ?_)
    rw [hmethod, hnowhere]
    exact ⟨_, rfl⟩
  have hends : (dispatch request).Ends server (.ok (.detail 404 "Not Found")) server := by
    rw [dispatch, Request.askedMethod?_of_post hmethod]
    exact hroute
  obtain ⟨lines, correlation, heq⟩ := receive_of_ends hends
  rw [heq]
  rfl

theorem fst_of_namedEvaluation {name : String} {body : Request.Body}
    {asked : String × EvaluateRule}
    (h : namedEvaluation request (some name) body = .ok asked) : asked.1 = name := by
  obtain ⟨make, evaluated, hmake, -, rfl⟩ := Checked.exists_of_seq_eq_ok h
  obtain ⟨make', named, hmake', hnamed, rfl⟩ := Checked.exists_of_seq_eq_ok hmake
  obtain rfl := Checked.ok.inj hmake'
  exact (Checked.ok.inj hnamed).symm

/-- A request that reaches the evaluation of a rule that is offered finds the rule, whatever its
body is. -/
theorem Offers.status_ne (h : Offers settings rule server) (hname : rule.name ≠ "")
    (htext : rule.text ≠ "")
    (hreached : request.reached? settings = some (.evaluateRule (some rule.name))) :
    (server.receive request).response.status ≠ 404 := by
  obtain ⟨rfl, hreachable, htables, hrow⟩ := h
  obtain ⟨engine, sessions, ⟨result, hresult, hends⟩ |
      ⟨-, body, asked, hcontent, hchecked, -, hends⟩⟩ :=
    handleBody_cases server request (namedEvaluation request (some rule.name))
      (fun asked => some (.named .rules asked.1))
      (fun asked => Handler.evaluateRule asked.1 asked.2)
  · obtain ⟨lines, correlation, heq⟩ := receive_of_ends (ends_dispatch hreached hends)
    rw [heq]
    intro hstatus
    have hmem := status_of_isRefusal hresult server.settings
    rw [hstatus] at hmem
    exact absurd hmem (by decide)
  · obtain ⟨named, evaluated⟩ := asked
    obtain rfl : named = rule.name := fst_of_namedEvaluation hchecked
    have hwork := Handler.ends_evaluateRule hrow (Rule.ofRow?_toRow hname htext) evaluated
    rw [hwork.result_eq] at hends
    exact (reports_of_ends (ends_dispatch hreached hends)).status_ne

/-- **Rules can be evaluated under their names unless these have a slash.** Let a creation of a rule
be answered with 201, and let the common beginning of the paths have no braces. Take any later
request that is posted to the path of the rule, with its name written in whatever way as a part of
the target. It is answered with something else than 404 exactly if the name has no slash. In this
case it reaches the evaluation of the rule of this name, and if it brings a record, the response
reports what the formula of the rule comes to on the record.

Each name can be written in this way, and as one segment. -/
theorem addressable_iff {server : Server} {creation : Request} {name text : String}
    (hplain : Template.IsPlain server.settings.apiPrefix.toList)
    (hreached : creation.reached? server.settings = some .createRule)
    (hasked : ∃ body, creation.content = .ok body ∧
      body.checked CreateRule.ofFields = .ok ⟨name, text⟩)
    (hcreated : (server.receive creation).response.status = 201) :
    let told := server.receive creation
    let settings := server.settings
    let rules := Route.rulesPath settings
    ∃ f, Formula.ofText? text settings.policy.maxDepth = .ok f ∧
      told.response.field? "ast" = some f.toValue ∧
      (∀ later request front segment, request.method = "POST" → Path.Writes front rules →
        Path.Writes segment name → request.target = Path.ruleTarget front segment →
        let response := ((told.server.after later).receive request).response
        (response.status ≠ 404 ↔ '/' ∉ name.toList) ∧
        ('/' ∉ name.toList → request.reached? settings = some (.evaluateRule (some name)) ∧
          ∀ (fields : Fields) (record : Record),
            request.content = .ok (.document (.object fields)) →
            fields.get? "data" = some (.object record) →
            response.Reports (f.evaluate record))) ∧
      Path.Writes (Text.escaped ['/'] rules) rules ∧ Path.Writes (Text.escaped [] name) name ∧
      '/' ∉ (Text.escaped [] name).toList := by
  intro told settings rules
  obtain ⟨f, hname, hread, htaken, hast⟩ := exists_of_created hreached hasked hcreated
  have htext : text ≠ "" := Formula.text_ne_empty_of_ofText? hread
  refine ⟨f, hread, hast, ?_, Path.writes_escaped (by decide) rules,
    Path.writes_escaped (by decide) name, Path.slash_not_mem_escaped name⟩
  intro later request front segment hmethod hfront hsegment htarget response
  have hoffers := htaken.offers.after later
  have hpath : Path.ofTarget request.target = Route.rulePath rules name := by
    rw [htarget, Path.ofTarget_ruleTarget hfront hsegment]
  have hreaches (hslash : '/' ∉ name.toList) :
      request.reached? settings = some (.evaluateRule (some name)) :=
    Request.reached?_evaluateRule hplain hmethod hpath hname hslash
  refine ⟨⟨?_, fun hslash => hoffers.status_ne hname htext (hreaches hslash)⟩, ?_⟩
  · intro hstatus hslash
    refine hstatus (status_of_nowhere ?_ hmethod ?_)
    · rw [hoffers.settings_eq]
      exact hplain
    · rw [hoffers.settings_eq, hpath]
      exact Route.destination_rulePath_of_slash hplain hslash "POST"
  · intro hslash
    refine ⟨hreaches hslash, ?_⟩
    intro fields record hcontent hdata
    have hposts : request.Posts (Route.rulePath rules name) fields := ⟨hmethod, hpath, hcontent⟩
    exact hoffers.reports_rule hname htext (hposts.asksForRule hplain hname hslash hdata)

/-- A name with a blank and a question mark, both of which are written as escapes. -/
theorem addressable_iff_of_escaped :
    let told := (ofTables .empty).receive (.creation "half price?" "plan = 'gold'")
    let request := Request.posting "/api/v1/rules/half%20price%3F/evaluate"
      [("data", .object [("plan", .text "gold")])]
    let response := (told.server.receive request).response
    told.response.status = 201 ∧ Text.escaped [] "half price?" = "half%20price%3F" ∧
      response.status ≠ 404 ∧ response.Tells "Passed Evaluation" "passed" := by
  intro told request response
  let rule : Rule := ⟨"half price?", "plan = 'gold'", .atom ⟨"plan", "=", .text "gold"⟩⟩
  have hscan : Token.scan "plan = 'gold'" =
      [⟨.name, "plan", 0⟩, ⟨.comparison, "=", 5⟩, ⟨.quoted, "'gold'", 7⟩] := by decide +kernel
  have hread : Formula.ofText? rule.text Settings.default.policy.maxDepth = .ok rule.formula := by
    rw [Formula.ofText?, hscan]
    rfl
  have hrule : (Request.creation rule.name rule.text).Proposes Settings.default.policy rule :=
    Request.proposes_creation (by decide) (by decide) hread
  have htaken : (ofTables .empty).TakesUp rule told :=
    takesUp_creation hrule (by decide) (by decide) (by decide)
  have htold := htaken.told
  rw [if_pos (by decide +kernel)] at htold
  have hreached : (Request.creation "half price?" "plan = 'gold'").reached?
      (ofTables .empty).settings = some .createRule := Request.reached?_creation ..
  obtain ⟨f, hf, -, hlater, -⟩ :=
    addressable_iff (by decide) hreached hrule.body htold.1
  obtain rfl : rule.formula = f := Except.ok.inj (hread.symm.trans hf)
  have hfront : Path.Writes "/api/v1/rules" (Route.rulesPath Settings.default) :=
    Path.writes_of_all (by decide) (by decide +kernel)
  have hsegment : Path.Writes "half%20price%3F" "half price?" :=
    Path.writes_of_all (by decide) (by decide +kernel)
  obtain ⟨hstatus, hreaches⟩ := hlater [] request _ _ rfl hfront hsegment (by decide)
  obtain ⟨-, hevaluated⟩ := hreaches (by decide)
  have hposted : request.content = .ok (.document (.object
      [("data", .object [("plan", .text "gold")])])) :=
    Request.content_posting _ ⟨by simp, ⟨by simp, trivial, trivial⟩, trivial⟩
  have hpassed : rule.formula.evaluate [("plan", .text "gold")] = .ok .passed := by
    rw [Formula.evaluate_atom]
    rfl
  have hreports := hevaluated _ _ hposted rfl
  rw [hpassed] at hreports
  exact ⟨htold.1, by decide +kernel, hstatus.mpr (by decide), hreports⟩

/-- A rule whose name has a slash is created, and a request for its evaluation, with the slash
written as an escape, is told that there is no such path. -/
theorem not_addressable_of_slash :
    let rule : Rule := ⟨"a/b", "x = 1", .atom ⟨"x", "=", .number (.int 1)⟩⟩
    let told := (ofTables .empty).receive (.creation "a/b" "x = 1")
    let request := Request.posting "/api/v1/rules/a%2Fb/evaluate"
      [("data", .object [("x", .number (.int 1))])]
    told.response.status = 201 ∧ Text.escaped [] rule.name = "a%2Fb" ∧
      (told.server.receive request).response.status = 404 := by
  intro rule told request
  have hscan : Token.scan "x = 1" =
      [⟨.name, "x", 0⟩, ⟨.comparison, "=", 2⟩, ⟨.number, "1", 4⟩] := by decide +kernel
  have hread : Formula.ofText? rule.text Settings.default.policy.maxDepth = .ok rule.formula := by
    rw [Formula.ofText?, hscan]
    rfl
  have hrule : (Request.creation rule.name rule.text).Proposes Settings.default.policy rule :=
    Request.proposes_creation (by decide) (by decide) hread
  have htaken : (ofTables .empty).TakesUp rule told :=
    takesUp_creation hrule (by decide) (by decide) (by decide)
  have htold := htaken.told
  rw [if_pos (by decide +kernel)] at htold
  refine ⟨htold.1, by decide +kernel, status_of_nowhere ?_ rfl ?_⟩
  · rw [htaken.settings]
    decide
  · rw [htaken.settings]
    decide +kernel

end Server

end Eligibility

import Eligibility.Proofs.Action
import Eligibility.Proofs.Rule.Encoding
import Eligibility.Proofs.Rule.Outcome
import Eligibility.RuleBook.Basic

/-!
# Combining stored rules

Stored rules can be combined first and evaluated as one formula, or evaluated one by one. Where all
evaluations return, the outcome is the same (`evaluate_combine`): the first error in the order of
the request, or else whether all of them, or some of them, passed. The order of the rows and
repeated names make no difference, since each name finds its rule again among the rows that were
fetched for all of them (`find?_rulesNamed`, `find?_ofRow?`).

A row is `Readable` if a rule comes back from it. Rows that the rule book writes always are
(`readable_toRow`); a row that comes from elsewhere may lack its name or its text, and then it is
neither combined nor evaluated (`combine_of_void_row`).
-/

namespace Eligibility

/-! ## Rows that are rules -/

/-- The row gives its rule back. -/
structure RuleRow.Readable (row : RuleRow) : Prop where
  name_ne : row.name ≠ ""
  text_ne : row.text ≠ ""
  decodes : ∃ f, Formula.ofValue? row.document = .ok f

namespace Rule

theorem make?_of_ne {name text : String} (hname : name ≠ "") (htext : text ≠ "") (f : Formula) :
    make? name text f = .ok ⟨name, text, f⟩ := by
  simp [make?, check, Value.isVoid, hname, htext, Except.map]

theorem ofRow?_of_ne {row : RuleRow} {f : Formula} (hf : Formula.ofValue? row.document = .ok f)
    (hname : row.name ≠ "") (htext : row.text ≠ "") :
    ofRow? row = .ok ⟨row.name, row.text, f⟩ := by
  rw [ofRow?, hf]
  show (make? row.name row.text f).mapError RuleError.entry = _
  rw [make?_of_ne hname htext]
  rfl

theorem name_of_make? {name text : String} {f : Formula} {rule : Rule}
    (h : make? name text f = .ok rule) : rule.name = name := by
  unfold make? at h
  cases hcheck : check (.text name) (.text text) with
  | error e => rw [hcheck] at h; exact absurd h (by simp [Except.map])
  | ok _ =>
      rw [hcheck] at h
      obtain rfl := Except.ok.inj h
      rfl

theorem name_of_ofRow? {row : RuleRow} {rule : Rule} (h : ofRow? row = .ok rule) :
    rule.name = row.name := by
  unfold ofRow? at h
  cases hdocument : Formula.ofValue? row.document with
  | error e => rw [hdocument] at h; exact absurd h (by simp)
  | ok f =>
      rw [hdocument] at h
      replace h : (make? row.name row.text f).mapError RuleError.entry = .ok rule := h
      exact name_of_make? (eq_ok_of_mapError h)

end Rule

theorem RuleRow.Readable.exists_rule {row : RuleRow} (h : row.Readable) :
    ∃ rule, Rule.ofRow? row = .ok rule := by
  obtain ⟨f, hf⟩ := h.decodes
  exact ⟨_, Rule.ofRow?_of_ne hf h.name_ne h.text_ne⟩

/-- The row that is written for a rule gives the rule back. -/
theorem Rule.ofRow?_toRow {rule : Rule} (hname : rule.name ≠ "") (htext : rule.text ≠ "") :
    ofRow? rule.toRow = .ok rule :=
  ofRow?_of_ne (Formula.ofValue?_toValue rule.formula) hname htext

theorem Rule.readable_toRow {rule : Rule} (hname : rule.name ≠ "") (htext : rule.text ≠ "") :
    rule.toRow.Readable :=
  ⟨hname, htext, rule.formula, Formula.ofValue?_toValue rule.formula⟩

/-! ## Looking rules up -/

/-- Looking for a name before or after the rows are read finds the same rule. -/
theorem find?_ofRow? {rows : List RuleRow} {rules : List Rule}
    (h : rows.map Rule.ofRow? = rules.map .ok) (name : String) :
    (rows.find? fun row => row.name == name).map Rule.ofRow? =
      (rules.find? fun rule => rule.name == name).map .ok := by
  induction rows generalizing rules with
  | nil =>
      obtain rfl : rules = [] := by simpa using h.symm
      rfl
  | cons row rows ih =>
      obtain ⟨rule, rules, rfl, hrule, hrest⟩ := List.map_eq_cons_iff.mp h.symm
      have hname := Rule.name_of_ofRow? hrule.symm
      rw [List.find?_cons, List.find?_cons, hname]
      split
      · exact congrArg some hrule.symm
      · exact ih hrest.symm

namespace Session

variable {s : Session} {names : List String}

/-- Among the rows of several names, each of them finds the row that it finds by itself. -/
theorem find?_rulesNamed {name : String} (h : name ∈ names) :
    ((s.rulesNamed names).find? fun row => row.name == name) = s.rule? name := by
  rw [rulesNamed, List.find?_filter, rule?]
  congr 1
  funext row
  by_cases hrow : row.name = name
  · simp [hrow, h]
  · simp [hrow]

theorem findRules_of_mapM {result : Except RuleError (List Rule)}
    (h : (s.rulesNamed names).mapM Rule.ofRow? = result) :
    findRules names s = ⟨result, s, []⟩ :=
  Action.bind_of_ok (Action.read_of_eq rfl) (Action.ofExcept_of_eq h s)

/-- If the rows of the names are all rules, then each name finds among them the rule of the row that
it finds by itself, or nothing if it is not stored. -/
theorem exists_found_of_reads
    (h : ∀ row ∈ s.rulesNamed names, ∃ rule, Rule.ofRow? row = .ok rule) :
    ∃ found, findRules names s = ⟨.ok found, s, []⟩ ∧
      ∀ name ∈ names, (s.rule? name).map Rule.ofRow? =
        (found.find? fun rule => rule.name == name).map .ok := by
  obtain ⟨found, hread⟩ := exists_mapM_eq_ok h
  refine ⟨found, findRules_of_mapM hread, ?_⟩
  intro name hname
  rw [← find?_ofRow? (map_eq_of_mapM_eq_ok hread) name, find?_rulesNamed hname]

/-- Names of readable rows are all found, each with the rule that it finds by itself. -/
theorem exists_found (hstored : ∀ name ∈ names, ∃ row ∈ s.current.rules, row.name = name)
    (hreadable : ∀ row ∈ s.current.rules, row.name ∈ names → row.Readable) :
    ∃ found, findRules names s = ⟨.ok found, s, []⟩ ∧
      ∀ name ∈ names, ∃ row rule, s.rule? name = some row ∧ Rule.ofRow? row = .ok rule ∧
        (found.find? fun rule => rule.name == name) = some rule := by
  have hrows : ∀ row ∈ s.rulesNamed names, ∃ rule, Rule.ofRow? row = .ok rule := by
    intro row hrow
    obtain ⟨hmem, hname⟩ := List.mem_filter.mp hrow
    exact (hreadable row hmem (by simpa using hname)).exists_rule
  obtain ⟨found, hfound, hlookup⟩ := exists_found_of_reads hrows
  refine ⟨found, hfound, ?_⟩
  intro name hname
  obtain ⟨row, hmem, hrow⟩ := hstored name hname
  have hisSome : (s.rule? name).isSome = true :=
    List.find?_isSome.mpr ⟨row, hmem, by simpa using hrow⟩
  obtain ⟨row, hrow⟩ := Option.isSome_iff_exists.mp hisSome
  have hname := hlookup name hname
  rw [hrow, Option.map_some] at hname
  obtain ⟨rule, hrule, hok⟩ := Option.map_eq_some_iff.mp hname.symm
  exact ⟨row, rule, hrow, hok.symm, hrule⟩

theorem findRule_of_row {name : String} {row : RuleRow} {rule : Rule}
    (hrow : s.rule? name = some row) (hrule : Rule.ofRow? row = .ok rule) :
    findRule name s = ⟨.ok (some rule), s, []⟩ := by
  have hread : (Action.read fun s : Session => s.rule? name : Action Session RuleError _) s =
      ⟨.ok (some row), s, []⟩ := Action.read_of_eq hrow
  exact Action.bind_of_ok hread (Action.bind_of_ok (Action.ofExcept_of_eq hrule s) rfl)

end Session

namespace RuleBook

variable {s : Session} {names : List String}

/-- What the evaluation of a rule comes to, as the answer to a request. -/
def evaluated (record : Record) (rule : Rule) : Except RuleError Evaluation :=
  ((rule.formula.evaluate record).mapError .number).map fun outcome => ⟨rule.text, outcome⟩

theorem evaluated_of_ok {record : Record} {rule : Rule} {outcome : Outcome}
    (h : rule.formula.evaluate record = .ok outcome) :
    evaluated record rule = .ok ⟨rule.text, outcome⟩ := by
  rw [evaluated, h]
  rfl

theorem evaluated_of_error {record : Record} {rule : Rule} {e : Number.ConversionError}
    (h : rule.formula.evaluate record = .error e) :
    evaluated record rule = .error (.number e) := by
  rw [evaluated, h]
  rfl

theorem outcome_of_evaluated {record : Record} {rule : Rule} {evaluation : Evaluation}
    (h : evaluated record rule = .ok evaluation) :
    rule.formula.evaluate record = .ok evaluation.outcome := by
  cases houtcome : rule.formula.evaluate record with
  | error e =>
      rw [evaluated_of_error houtcome] at h
      cases h
  | ok outcome =>
      rw [evaluated_of_ok houtcome] at h
      obtain rfl := Except.ok.inj h
      rfl

theorem error_of_evaluated {record : Record} {rule : Rule} {e : RuleError}
    (h : evaluated record rule = .error e) :
    ∃ c, e = .number c ∧ rule.formula.evaluate record = .error c := by
  cases houtcome : rule.formula.evaluate record with
  | error c =>
      rw [evaluated_of_error houtcome] at h
      exact ⟨c, (Except.error.inj h).symm, rfl⟩
  | ok outcome =>
      rw [evaluated_of_ok houtcome] at h
      cases h

/-- Rules that are all evaluated have the outcomes of their evaluations. -/
theorem outcomes_of_evaluated {record : Record} {rules : List Rule} {evaluations : List Evaluation}
    (h : rules.map (evaluated record) = evaluations.map .ok) :
    (rules.mapM fun rule => rule.formula.evaluate record) = .ok (evaluations.map (·.outcome)) := by
  induction rules generalizing evaluations with
  | nil =>
      obtain rfl : evaluations = [] := by simpa using h.symm
      rfl
  | cons rule rules ih =>
      obtain ⟨evaluation, evaluations, rfl, hfirst, hrest⟩ := List.map_eq_cons_iff.mp h.symm
      rw [List.mapM_cons, outcome_of_evaluated hfirst.symm, ih hrest.symm]
      rfl

/-- What an evaluation comes to, from what is found under the name. -/
def evaluationOf (name : String) (record : Record) :
    Except RuleError (Option Rule) → Except RuleError Evaluation
  | .error (.invalid e) => .ok ⟨"", .error (.invalid e)⟩
  | .error e => .error e
  | .ok none => .error (.notFound [name])
  | .ok (some rule) => evaluated record rule

theorem ends_evaluate {name : String} {found : Except RuleError (Option Rule)}
    (h : Session.findRule name s = ⟨found, s, []⟩) (record : Record) :
    (evaluate name record).Ends s (evaluationOf name record found) s := by
  refine Action.Ends.bind (Action.Ends.attempt ⟨_, h⟩) ?_
  cases found with
  | error e => cases e <;> exact ⟨_, rfl⟩
  | ok rule? =>
      cases rule? with
      | none => exact ⟨_, rfl⟩
      | some rule =>
          show (Action.ofExcept _ >>= _).Ends s (evaluated record rule) s
          cases houtcome : rule.formula.evaluate record with
          | error e =>
              rw [evaluated_of_error houtcome]
              exact (Action.ends_ofExcept _ s).bind_error _
          | ok outcome =>
              rw [evaluated_of_ok houtcome]
              exact (Action.ends_ofExcept _ s).bind ⟨_, rfl⟩

theorem evaluate_of_row {name : String} {row : RuleRow} {rule : Rule}
    (hrow : s.rule? name = some row) (hrule : Rule.ofRow? row = .ok rule) (record : Record) :
    (evaluate name record s).result = evaluated record rule ∧
      (evaluate name record s).state = s := by
  have hends := ends_evaluate (Session.findRule_of_row hrow hrule) record
  exact ⟨hends.result_eq, hends.state_eq⟩

/-- What a combination of names comes to, from what is found under them. -/
def combinationOf (names : List String) (operator : Value) :
    Except RuleError (List Rule) → Except RuleError Formula
  | .error e => .error e
  | .ok found =>
      let missing := names.filter fun name => !(found.map (·.name)).contains name
      if missing.isEmpty then
        (Formula.combine operator (formulasOf found names)).mapError .combination
      else .error (.notFound missing)

theorem ends_combine {found : Except RuleError (List Rule)} (hne : names ≠ [])
    (hfound : Session.findRules names s = ⟨found, s, []⟩) (operator : Value) :
    (combine names operator).Ends s (combinationOf names operator found) s := by
  unfold combine
  rw [if_neg (by simpa using hne)]
  cases found with
  | error e => exact .bind_error ⟨_, hfound⟩ _
  | ok found =>
      refine .bind ⟨_, hfound⟩ ?_
      simp only [combinationOf]
      split
      · cases Formula.combine operator (formulasOf found names) <;> exact ⟨_, rfl⟩
      · exact ⟨_, rfl⟩

theorem combine_of_found {operator : Value} {found : List Rule} {f : Formula} (hne : names ≠ [])
    (hfound : Session.findRules names s = ⟨.ok found, s, []⟩)
    (hnames : ∀ name ∈ names, name ∈ found.map (·.name))
    (hf : Formula.combine operator (formulasOf found names) = .ok f) :
    (combine names operator s).result = .ok f ∧ (combine names operator s).state = s := by
  -- no name is missing, so the request gets past its own check
  have hmissing : (names.filter fun name => !(found.map (·.name)).contains name) = [] := by
    rw [List.filter_eq_nil_iff]
    intro name hname
    simpa using hnames name hname
  have hcombination : combinationOf names operator (.ok found) = .ok f := by
    simp only [combinationOf, hmissing, hf]
    rfl
  have hends := ends_combine hne hfound operator
  rw [hcombination] at hends
  exact ⟨hends.result_eq, hends.state_eq⟩

/-- Each name of the request finds its rule among those that were found for all names. What is known
of the rules one by one is then known of them in the order of the request. -/
theorem exists_rules {β : Type} {single : String → β} {known : Rule → β} {found : List Rule}
    (h : ∀ name ∈ names, ∃ rule, (found.find? fun rule => rule.name == name) = some rule ∧
      single name = known rule) :
    ∃ rules : List Rule, formulasOf found names = rules.map (·.formula) ∧
      names.map single = rules.map known := by
  induction names with
  | nil => exact ⟨[], rfl, rfl⟩
  | cons name names ih =>
      obtain ⟨rule, hfind, hresult⟩ := h name List.mem_cons_self
      obtain ⟨rules, hformulas, hresults⟩ := ih fun n hn => h n (List.mem_cons_of_mem _ hn)
      refine ⟨rule :: rules, ?_, by rw [List.map_cons, List.map_cons, hresult, hresults]⟩
      have hsome : ((found.find? fun rule => rule.name == name).map (·.formula)) =
          some rule.formula := by
        rw [hfind]
        rfl
      rw [List.map_cons, ← hformulas]
      exact List.filterMap_cons_some hsome

/-- **Combining stored rules and evaluating them commute.** Take any session and any names, with
repetitions or not, whose rules are stored in readable rows. The rules are combined to a formula,
and each of them is evaluated. If all these evaluations return, so does that of the formula, and its
outcome is the first error among theirs in the order of the request, or else whether all of them
(under AND) or some of them (under OR) passed. Only a number that is not read keeps an evaluation
from returning. The session is left as it was. -/
theorem evaluate_combine (s : Session) {names : List String} (hne : names ≠ [])
    (hstored : ∀ name ∈ names, ∃ row ∈ s.current.rules, row.name = name)
    (hreadable : ∀ row ∈ s.current.rules, row.name ∈ names → row.Readable) (op : Connective)
    (record : Record) :
    ∃ f : Formula,
      (combine names (.text op.keyword) s).result = .ok f ∧
      (combine names (.text op.keyword) s).state = s ∧
      (∀ evaluations : List Evaluation,
        names.map (fun name => (evaluate name record s).result) = evaluations.map .ok →
        (Candidate.formula f).evaluate record =
          .ok (Outcome.overall op (evaluations.map (·.outcome)))) ∧
      ∀ name ∈ names, (evaluate name record s).state = s ∧
        ∀ e, (evaluate name record s).result = .error e → ∃ c, e = .number c := by
  -- the rows of all names are fetched together, and each name finds its own rule among them
  obtain ⟨found, hfound, hfind⟩ := Session.exists_found hstored hreadable
  have hnames : ∀ name ∈ names, name ∈ found.map (·.name) := by
    intro name hname
    obtain ⟨row, rule, -, -, hrule⟩ := hfind name hname
    have hname := List.find?_some hrule
    exact List.mem_map.mpr ⟨rule, List.mem_of_find?_eq_some hrule, by simpa using hname⟩
  have hevaluate : ∀ name ∈ names, ∃ rule : Rule,
      (found.find? fun rule => rule.name == name) = some rule ∧
        (evaluate name record s).result = evaluated record rule := by
    intro name hname
    obtain ⟨row, rule, hrow, hread, hrule⟩ := hfind name hname
    exact ⟨rule, hrule, (evaluate_of_row hrow hread record).1⟩
  -- in the order of the request these are the formulas combined and the rules evaluated
  obtain ⟨rules, hformulas, hresults⟩ := exists_rules hevaluate
  cases rules with
  | nil => exact absurd (List.map_eq_nil_iff.mp hresults) hne
  | cons first rest =>
      have hcombined : Formula.combine (.text op.keyword) (formulasOf found names) =
          .ok (Formula.joinAll op first.formula (rest.map (·.formula))) := by
        rw [hformulas, List.map_cons, Formula.combine_keyword]
      obtain ⟨hresult, hstate⟩ := combine_of_found hne hfound hnames hcombined
      refine ⟨_, hresult, hstate, ?_, ?_⟩
      · intro evaluations hevaluations
        have houtcomes := outcomes_of_evaluated (hresults.symm.trans hevaluations)
        rw [Candidate.evaluate, Formula.evaluate_joinAll, ← List.map_cons, List.mapM_map]
        exact congrArg (Except.map (Outcome.overall op)) houtcomes
      · intro name hname
        obtain ⟨row, rule, hrow, hread, -⟩ := hfind name hname
        obtain ⟨hresult, hstate⟩ := evaluate_of_row hrow hread record
        refine ⟨hstate, fun e he => ?_⟩
        obtain ⟨c, hc, -⟩ := error_of_evaluated (hresult.symm.trans he)
        exact ⟨c, hc⟩

/-- The rules are asked for in another order than they are stored in, and one of them twice. It
passes, and the error of the other one is the outcome all the same. -/
theorem evaluate_combine_of_repeated :
    let r : Rule := ⟨"r", "age > 30", .atom ⟨"age", ">", .number (.int 30)⟩⟩
    let t : Rule := ⟨"t", "city = 'Paris'", .atom ⟨"city", "=", .text "Paris"⟩⟩
    let s : Session := .ofTables ⟨[r.toRow, t.toRow], []⟩
    let record : Record := [("city", .text "Paris"), ("age", .text "old")]
    (∀ row ∈ s.current.rules, row.name ∈ ["t", "r", "t"] → row.Readable) ∧
      ∃ f, (combine ["t", "r", "t"] (.text "OR") s).result = .ok f ∧
        (Candidate.formula f).evaluate record = .ok (.error (.requiresNumbers ">")) := by
  intro r t s record
  have hr : Rule.ofRow? r.toRow = .ok r := Rule.ofRow?_toRow (by decide) (by decide)
  have ht : Rule.ofRow? t.toRow = .ok t := Rule.ofRow?_toRow (by decide) (by decide)
  have houtcome : r.formula.evaluate record = .ok (.error (.requiresNumbers ">")) := by
    rw [Formula.evaluate_atom]
    rfl
  have houtcome' : t.formula.evaluate record = .ok .passed := by
    rw [Formula.evaluate_atom]
    rfl
  have hevaluate : (evaluate "r" record s).result =
      .ok ⟨r.text, .error (.requiresNumbers ">")⟩ := by
    rw [(evaluate_of_row rfl hr record).1, evaluated_of_ok houtcome]
  have hevaluate' : (evaluate "t" record s).result = .ok ⟨t.text, .passed⟩ := by
    rw [(evaluate_of_row rfl ht record).1, evaluated_of_ok houtcome']
  have hreadable : ∀ row ∈ s.current.rules, row.name ∈ ["t", "r", "t"] → row.Readable := by
    intro row hrow _
    rcases List.mem_cons.mp hrow with rfl | hrow
    · exact Rule.readable_toRow (by decide) (by decide)
    · rw [List.mem_singleton.mp hrow]
      exact Rule.readable_toRow (by decide) (by decide)
  refine ⟨hreadable, ?_⟩
  obtain ⟨f, hcombine, -, hcombined, -⟩ := evaluate_combine s (by simp)
    (by simp [s, r, t, Session.ofTables, Rule.toRow]) hreadable .or record
  have hresults : ["t", "r", "t"].map (fun name => (evaluate name record s).result) =
      [⟨t.text, .passed⟩, ⟨r.text, .error (.requiresNumbers ">")⟩, ⟨t.text, .passed⟩].map .ok := by
    simp only [List.map_cons, List.map_nil, hevaluate, hevaluate']
  exact ⟨f, hcombine, hcombined _ hresults⟩

/-- A row that is named and is no rule keeps everything else from being combined. -/
theorem combine_of_error {operator : Value} {e : RuleError} (hne : names ≠ [])
    (h : (s.rulesNamed names).mapM Rule.ofRow? = .error e) :
    combine names operator s = ⟨.error e, s, []⟩ := by
  unfold combine
  rw [if_neg (by simpa using hne)]
  exact Action.bind_of_error (Session.findRules_of_mapM h) _

theorem evaluate_of_entryError {name : String} {row : RuleRow} {e : EntryError}
    (hrow : s.rule? name = some row) (h : Rule.ofRow? row = .error (.entry e)) (record : Record) :
    evaluate name record s = ⟨.error (.entry e), s, []⟩ := by
  have hread : (Action.read fun s : Session => s.rule? name : Action Session RuleError _) s =
      ⟨.ok (some row), s, []⟩ := Action.read_of_eq hrow
  have hfind : Session.findRule name s = ⟨.error (.entry e), s, []⟩ :=
    Action.bind_of_ok hread (Action.bind_of_error (Action.ofExcept_of_eq h s) _)
  exact Action.bind_of_ok (Action.attempt_apply hfind) rfl

/-- Rows from elsewhere may hold a formula and lack the text or the name. They are then no rules: a
request that names one of them fails, and nothing is combined. -/
theorem combine_of_void_row :
    let f : Formula := .atom ⟨"a", "=", .number (.int 1)⟩
    let s : Session := .ofTables ⟨[⟨"r", "", f.toValue⟩, ⟨"", "a = 1", f.toValue⟩], []⟩
    (∀ name ∈ ["r", ""], ∃ row ∈ s.current.rules, row.name = name) ∧
      (∀ row ∈ s.current.rules, Formula.ofValue? row.document = .ok f) ∧
      (combine ["r"] (.text "AND") s).result = .error (.entry .ruleTextRequired) ∧
      (combine [""] (.text "AND") s).result = .error (.entry .ruleNameRequired) ∧
      ∀ record, (evaluate "r" record s).result = .error (.entry .ruleTextRequired) ∧
        (evaluate "" record s).result = .error (.entry .ruleNameRequired) := by
  intro f s
  have htext : Rule.ofRow? ⟨"r", "", f.toValue⟩ = .error (.entry .ruleTextRequired) := by
    rw [Rule.ofRow?, Formula.ofValue?_toValue]
    rfl
  have hname : Rule.ofRow? ⟨"", "a = 1", f.toValue⟩ = .error (.entry .ruleNameRequired) := by
    rw [Rule.ofRow?, Formula.ofValue?_toValue]
    rfl
  refine ⟨by simp [s, Session.ofTables], ?_, ?_, ?_, ?_⟩
  · intro row hrow
    rcases List.mem_cons.mp hrow with rfl | hrow
    · exact Formula.ofValue?_toValue f
    · rw [List.mem_singleton.mp hrow]
      exact Formula.ofValue?_toValue f
  · have hrows : (s.rulesNamed ["r"]).mapM Rule.ofRow? = .error (.entry .ruleTextRequired) := by
      show [RuleRow.mk "r" "" f.toValue].mapM Rule.ofRow? = _
      rw [List.mapM_cons, htext]
      rfl
    rw [combine_of_error (by simp) hrows]
  · have hrows : (s.rulesNamed [""]).mapM Rule.ofRow? = .error (.entry .ruleNameRequired) := by
      show [RuleRow.mk "" "a = 1" f.toValue].mapM Rule.ofRow? = _
      rw [List.mapM_cons, hname]
      rfl
    rw [combine_of_error (by simp) hrows]
  · intro record
    rw [evaluate_of_entryError rfl htext, evaluate_of_entryError rfl hname]
    exact ⟨rfl, rfl⟩

end RuleBook

end Eligibility

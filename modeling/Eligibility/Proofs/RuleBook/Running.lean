import Eligibility.Proofs.RuleBook.Creating
import Eligibility.RuleBook.Step

/-!
# Runs of a session

A session is asked for one step after the other, and to undo what is pending in between; steps may
fail. Whatever is asked for, the session changes in one of the ways of `Session.Change`
(`change_apply`), and two results follow by induction on the run.

* `run_consistent` — names stay distinct, and a rule that has been created and has been stored ever
  since (`Created`) is stored as its text reads, next to all attributes that it mentions. The
  induction carries one fact about what is committed along: if the rule's name is committed, then
  the rule and its attributes are (`Carries`). So it does not matter which rows an undoing takes
  away: it takes the rule away or leaves all of this.
* `committed_rows_stay` — what was committed once stays the beginning of the tables, and is found,
  evaluated and listed as before.
-/

namespace Eligibility

/-- What is asked of a session: a step, or to undo what is pending. -/
inductive Operation : Type 1 where
  | step {α : Type} (asked : Step α)
  | rollback

/-- The session after an operation. -/
def Operation.apply (policy : Policy) : Operation → Session → Session
  | .step asked, s => (asked.work policy s).state
  | .rollback, s => s.rollback

/-- The tables have the row of the rule and all attributes that it mentions. -/
structure Tables.Carries (tables : Tables) (rule : Rule) : Prop where
  row : rule.toRow ∈ tables.rules
  attributes : ∀ name ∈ rule.formula.attributes, name ∈ tables.attributeNames

theorem Tables.Carries.append {tables : Tables} {rule : Rule} (h : tables.Carries rule)
    (rules : List RuleRow) (attributes : List Attribute) :
    (tables.append rules attributes).Carries rule := by
  refine ⟨List.mem_append_left _ h.row, ?_⟩
  intro name hname
  rw [attributeNames, Tables.append, List.map_append]
  exact List.mem_append_left _ (h.attributes name hname)

namespace Session

variable {policy : Policy} {operation : Operation} {operations : List Operation} {s s' : Session}
  {rule : Rule}

/-- The session after operations, one after the other. -/
def run (policy : Policy) (operations : List Operation) (s : Session) : Session :=
  operations.foldl (fun s operation => operation.apply policy s) s

theorem run_concat (operations : List Operation) (operation : Operation) (s : Session) :
    run policy (operations ++ [operation]) s =
      operation.apply policy (run policy operations s) := by
  simp [run]

/-! ## One operation -/

theorem change_work (policy : Policy) {α : Type} (asked : Step α) (s : Session) :
    s.Change (asked.work policy s).state := by
  cases asked with
  | create name text => exact RuleBook.change_create policy name text s
  | combine names operator => exact .of_eq (RuleBook.keeps_combine id names operator s)
  | evaluate name record => exact .of_eq (RuleBook.keeps_evaluate id name record s)
  | rules => exact .of_eq (keeps_listRules id s)
  | rule name => exact .of_eq (keeps_findRule id name s)
  | rulesNamed names => exact .of_eq (keeps_findRules id names s)
  | storeRule added => exact change_storeRule added s
  | storeAttributes added => exact change_storeAttributes added s
  | findMissing names => exact .of_eq (Catalog.ends_findMissing names s).state_eq
  | registerMissing names => exact Catalog.change_registerMissing policy.hints names s
  | validate formula => exact Catalog.change_validate policy.hints formula s
  | commit => exact .commit
  -- what is left looks at attributes
  | _ => exact .refl s

theorem change_apply (policy : Policy) (operation : Operation) (s : Session) :
    s.Change (operation.apply policy s) := by
  cases operation with
  | step asked => exact change_work policy asked s
  | rollback => exact .rollback

/-! ## What runs preserve -/

theorem consistent_run (h : s.Consistent) (policy : Policy) (operations : List Operation) :
    (run policy operations s).Consistent := by
  induction operations generalizing s with
  | nil => exact h
  | cons operation operations ih => exact ih ((change_apply policy operation s).consistent h)

theorem starts_run {first : Tables} (h : Starts first s) (policy : Policy)
    (operations : List Operation) : Starts first (run policy operations s) := by
  induction operations generalizing s with
  | nil => exact h
  | cons operation operations ih => exact ih ((change_apply policy operation s).starts h)

/-- In the course of operations on an empty database the rule has been created, and it has been
stored ever since. -/
inductive Created (policy : Policy) : List Operation → Rule → Prop where
  | now {operations : List Operation} {name text : String} {f : Formula}
      (h : (RuleBook.create policy name text (run policy operations (.ofTables .empty))).result =
        .ok f) :
      Created policy (operations ++ [.step (.create name text)]) ⟨name, text, f⟩
  | still {operations : List Operation} {rule : Rule} (operation : Operation)
      (hcreated : Created policy operations rule)
      (hstored : rule.name ∈
        (run policy (operations ++ [operation]) (.ofTables .empty)).current.ruleNames) :
      Created policy (operations ++ [operation]) rule

/-- A created rule with its attributes, as seen and, if its name is committed, as committed. -/
structure Holds (policy : Policy) (rule : Rule) (s : Session) : Prop where
  read : Formula.ofText? rule.text policy.maxDepth = .ok rule.formula
  name_ne : rule.name ≠ ""
  current : s.current.Carries rule
  committed : rule.name ∈ s.committed.ruleNames → s.committed.Carries rule

theorem holds_create {name text : String} {f : Formula} (hs : s.Consistent)
    (h : (RuleBook.create policy name text s).result = .ok f) :
    Holds policy ⟨name, text, f⟩ (RuleBook.create policy name text s).state := by
  obtain ⟨hname, hfree, hread, hstate⟩ := RuleBook.create_of_ok h
  rw [hstate]
  refine ⟨hread, hname, ⟨List.mem_append_right _ (List.mem_singleton.mpr rfl), ?_⟩, ?_⟩
  · exact fun other hother => Tables.mem_attributeNames_append _ hother
  · -- the name was free, so it was not committed either
    intro hcommitted
    exact absurd ((hs.starts.rules.map _).subset hcommitted) (rule?_eq_none_iff.mp hfree)

/-- As long as the rule is stored, so are its attributes: rows come in at the end, and what is
undone goes back to what was committed together. -/
theorem Change.holds (hchange : s.Change s') (h : Holds policy rule s)
    (hstored : rule.name ∈ s'.current.ruleNames) : Holds policy rule s' := by
  cases hchange with
  | add rules attributes =>
      exact ⟨h.read, h.name_ne, h.current.append rules attributes, h.committed⟩
  | rollback => exact ⟨h.read, h.name_ne, h.committed hstored, h.committed⟩
  | commit => exact ⟨h.read, h.name_ne, h.current, fun _ => h.current⟩

theorem holds_of_created (h : Created policy operations rule) :
    Holds policy rule (run policy operations (.ofTables .empty)) := by
  induction h with
  | now h =>
      rw [run_concat]
      exact holds_create (consistent_run (consistent_ofTables Tables.distinct_empty) ..) h
  | still operation hcreated hstored ih =>
      rw [run_concat] at hstored ⊢
      exact (change_apply policy operation _).holds ih hstored

/-- Among distinct names, the row of a name is the one that is there. -/
theorem eq_toRow_of_carries {tables : Tables} (htables : tables.Distinct) (h : tables.Carries rule)
    {row : RuleRow} (hrow : row ∈ tables.rules) (hname : row.name = rule.name) :
    row = rule.toRow :=
  List.inj_on_of_nodup_map htables.rules hrow h.row hname

/-- **Names are distinct, and created rules are stored as they read, with their attributes.** Take
any operations on an empty database, whether they succeed or fail, and look at the tables as the
session sees them or as they are committed. No two rules share a name and no two attributes do. A
rule that was created and has been stored ever since is read back with the formula that its text
reads as, and all attributes of this formula are in the catalog. -/
theorem run_consistent (policy : Policy) (operations : List Operation) :
    let s := run policy operations (.ofTables .empty)
    ∀ tables ∈ [s.current, s.committed],
      (tables.rules.map (·.name)).Nodup ∧ (tables.attributes.map (·.name)).Nodup ∧
      ∀ rule, Created policy operations rule → ∀ row ∈ tables.rules, row.name = rule.name →
        row.text = rule.text ∧ Formula.ofText? row.text policy.maxDepth = .ok rule.formula ∧
        Rule.ofRow? row = .ok rule ∧
        ∀ name ∈ rule.formula.attributes, ∃ a ∈ tables.attributes, a.name = name := by
  intro s tables htables
  have hs : s.Consistent := consistent_run (consistent_ofTables Tables.distinct_empty) ..
  have hdistinct : tables.Distinct := by
    rcases List.mem_pair.mp htables with rfl | rfl
    · exact hs.distinct
    · exact hs.committed_distinct
  refine ⟨hdistinct.rules, hdistinct.attributes, ?_⟩
  intro rule hcreated row hrow hname
  have hholds : Holds policy rule s := holds_of_created hcreated
  have hcarries : tables.Carries rule := by
    rcases List.mem_pair.mp htables with rfl | rfl
    · exact hholds.current
    · exact hholds.committed (hname ▸ List.mem_map_of_mem hrow)
  obtain rfl := eq_toRow_of_carries hdistinct hcarries hrow hname
  refine ⟨rfl, hholds.read, ?_, ?_⟩
  · exact Rule.ofRow?_toRow hholds.name_ne (Formula.text_ne_empty_of_ofText? hholds.read)
  · exact fun name hmem => List.mem_map.mp (hcarries.attributes name hmem)

/-- A rule is created and committed; then an attribute that came with it is stored again, which is
refused and undoes what is pending. The rule and its attribute are still there. -/
theorem run_consistent_of_refused :
    let rule : Rule := ⟨"r", "age > 30", .atom ⟨"age", ">", .number (.int 30)⟩⟩
    let operations : List Operation := [.step (.create "r" "age > 30"), .step .commit,
      .step (.storeAttributes [⟨"age", .string, none⟩])]
    let s := run .default operations (.ofTables .empty)
    Created .default operations rule ∧ rule.toRow ∈ s.committed.rules ∧
      Rule.ofRow? rule.toRow = .ok rule ∧ ∃ a ∈ s.committed.attributes, a.name = "age" := by
  intro rule operations s
  have hread : Formula.ofText? rule.text Policy.default.maxDepth = .ok rule.formula := by
    have hscan : Token.scan "age > 30" =
        [⟨.name, "age", 0⟩, ⟨.comparison, ">", 4⟩, ⟨.number, "30", 6⟩] := by decide +kernel
    rw [Formula.ofText?, hscan]
    rfl
  have hcreate : (RuleBook.create .default "r" "age > 30").Ends (.ofTables .empty)
      (.ok rule.formula) (RuleBook.withRule .default rule (.ofTables .empty)) :=
    RuleBook.ends_create rfl rfl hread (by decide)
  have hage : "age" ∈ rule.formula.attributes := by simp [rule, Formula.attributes]
  -- the second entry of the same name is refused, and the session goes back to what it committed
  have hrun : s = .commit (RuleBook.withRule .default rule (.ofTables .empty)) := by
    show (storeAttributes [⟨"age", .string, none⟩]
      (RuleBook.create .default "r" "age > 30" (.ofTables .empty)).state.commit).state = _
    rw [hcreate.state_eq]
    refine (ends_storeAttributes (insertAttributes_of_taken ?_)).state_eq
    intro hfresh
    refine hfresh.2 "age" (List.mem_singleton.mpr rfl) ?_
    exact Tables.mem_attributeNames_append _ hage
  have hrow : rule.toRow ∈ s.committed.rules := by
    rw [hrun]
    exact List.mem_append_right _ (List.mem_singleton.mpr rfl)
  have hcreated : Created .default operations rule := by
    have hfirst : Created .default ([] ++ [.step (.create "r" "age > 30")]) rule :=
      .now hcreate.result_eq
    refine .still _ (.still _ hfirst ?_) ?_
    · show "r" ∈
        (RuleBook.create .default "r" "age > 30" (.ofTables .empty)).state.current.ruleNames
      rw [hcreate.state_eq]
      exact RuleBook.mem_ruleNames_withRule .default rule _
    · show "r" ∈ s.current.ruleNames
      rw [hrun]
      exact RuleBook.mem_ruleNames_withRule .default rule _
  obtain ⟨-, -, hrules⟩ := run_consistent .default operations s.committed (by simp [s])
  obtain ⟨-, -, hread, hattributes⟩ := hrules rule hcreated rule.toRow hrow rfl
  exact ⟨hcreated, hrow, hread, hattributes "age" hage⟩

/-- **Committed rows are immutable.** Start from any tables with distinct names, empty or not, and
look at what is committed after some operations. Whatever is asked for afterwards, these rows stay
the first ones of their tables, in their order, as they are seen and as they are committed. Each of
their rules is found and evaluated as it was then, each of their attributes keeps its type and its
allowed values, and a listing begins with what a listing of them alone gives. -/
theorem committed_rows_stay {tables : Tables} (h : tables.Distinct) (policy : Policy)
    (earlier later : List Operation) :
    let s := run policy earlier (.ofTables tables)
    let s' := run policy later s
    (∀ now ∈ [s'.current, s'.committed],
      s.committed.rules <+: now.rules ∧ s.committed.attributes <+: now.attributes) ∧
    (∀ row ∈ s.committed.rules, s'.rule? row.name = some row ∧ ∀ record,
      (RuleBook.evaluate row.name record s').result =
        (RuleBook.evaluate row.name record s).result) ∧
    (∀ a ∈ s.committed.attributes, s'.attribute? a.name = some a) ∧
    ∀ rules, (listRules s').result = .ok rules →
      ∃ first last, (listRules (.ofTables s.committed)).result = .ok first ∧
        rules = first ++ last := by
  intro s s'
  have hs : s.Consistent := consistent_run (consistent_ofTables h) ..
  have hs' : s'.Consistent := consistent_run hs ..
  have hstarts : Starts s.committed s' := starts_run hs.starts_committed ..
  refine ⟨?_, ?_, ?_, ?_⟩
  · intro now hnow
    rcases List.mem_pair.mp hnow with rfl | rfl
    · exact ⟨hstarts.current.rules, hstarts.current.attributes⟩
    · exact ⟨hstarts.committed.rules, hstarts.committed.attributes⟩
  · intro row hrow
    have hthen : s.rule? row.name = some row :=
      rule?_of_mem hs.distinct (hs.starts.rules.subset hrow)
    have hnow : s'.rule? row.name = some row :=
      rule?_of_mem hs'.distinct (hstarts.current.rules.subset hrow)
    exact ⟨hnow, fun record => RuleBook.evaluate_congr row.name record (hnow.trans hthen.symm)⟩
  · intro a ha
    exact attribute?_of_mem hs'.distinct (hstarts.current.attributes.subset ha)
  · intro rules hrules
    obtain ⟨more, hmore⟩ := hstarts.current.rules
    rw [(ends_listRules s').result_eq, ← hmore] at hrules
    obtain ⟨first, last, hfirst, -, rfl⟩ := listed_append hrules
    exact ⟨first, last, (ends_listRules _).result_eq.trans hfirst, rfl⟩

/-- One of two committed rules cannot be decoded, and an attribute has another type than its name
suggests. A new rule mentions the attribute; then the other rule is stored again, which is refused
and undoes the new rule. -/
theorem committed_rows_stay_of_refused :
    let r : Rule := ⟨"r", "age > 30", .atom ⟨"age", ">", .number (.int 30)⟩⟩
    let age : Attribute := ⟨"age", .boolean, none⟩
    let tables : Tables := ⟨[⟨"broken", "age", .text "age"⟩, r.toRow], [age]⟩
    let later : List Operation :=
      [.step (.create "t" "age > 30"), .step (.storeRule r), .step .commit]
    let s := run .default later (.ofTables tables)
    tables.Distinct ∧ s.attribute? "age" = some age ∧ s.rule? "r" = some r.toRow ∧ ∀ record,
      (RuleBook.evaluate "broken" record s).result =
        .ok ⟨"", .error (.invalid (.notAnObject "str"))⟩ := by
  intro r age tables later s
  have hdistinct : tables.Distinct := ⟨by decide, by decide⟩
  have hbroken : Rule.ofRow? ⟨"broken", "age", .text "age"⟩ =
      .error (.invalid (.notAnObject "str")) := by
    rw [Rule.ofRow?, Formula.ofValue?_eq_decode, Formula.decode]
    rfl
  obtain ⟨-, hrules, hattributes, -⟩ := committed_rows_stay hdistinct .default [] later
  refine ⟨hdistinct, hattributes age (List.mem_singleton.mpr rfl), (hrules r.toRow ?_).1, ?_⟩
  · exact List.mem_cons_of_mem _ (List.mem_singleton.mpr rfl)
  · intro record
    refine ((hrules ⟨"broken", "age", .text "age"⟩ List.mem_cons_self).2 record).trans ?_
    exact (RuleBook.ends_evaluate (findRule_of_error rfl hbroken) record).result_eq

end Session

end Eligibility

import Eligibility.Proofs.RuleBook.Reading
import Eligibility.Proofs.Store.Growth

/-!
# Combinations in the order of the request

The rows of all names are fetched at once, without repetitions and in the order in which they were
stored. What a request comes to follows its own order all the same: the names that are missing are
told as they were asked for, and the formulas are joined as their rules were named
(`combine_in_order`). Names that are missing count before the operator is looked at.
-/

namespace Eligibility

/-- The comparisons of formulas that are joined one after the other, from left to right. -/
theorem Formula.comparisons_joinAll (op : Connective) (first : Formula) (rest : List Formula) :
    (joinAll op first rest).comparisons = (first :: rest).flatMap comparisons := by
  unfold joinAll
  induction rest generalizing first with
  | nil => simp
  | cons next rest ih => simp [ih]

namespace RuleBook

variable {s : Session} {names : List String} {found : List Rule}

/-- The names for which no rule was found are those that are not stored. -/
theorem missing_of_found
    (h : ∀ name ∈ names, (s.rule? name).map Rule.ofRow? =
      (found.find? fun rule => rule.name == name).map .ok) :
    (names.filter fun name => !(found.map (·.name)).contains name) =
      names.filter fun name => name ∉ s.current.ruleNames := by
  refine List.filter_congr fun name hname => ?_
  have hlookup : (s.rule? name).isSome = (found.find? fun rule => rule.name == name).isSome := by
    rw [← Option.isSome_map, h name hname, Option.isSome_map]
  have hstored : (s.rule? name).isSome = true ↔ name ∈ s.current.ruleNames := by
    simp [Session.rule?, Tables.ruleNames]
  have hfound : (found.find? fun rule => rule.name == name).isSome = true ↔
      name ∈ found.map (·.name) := by
    simp
  simp only [← hstored, hlookup, hfound, List.contains_eq_mem, decide_not]

section Reads

variable (hread : ∀ row ∈ s.current.rules, ∃ rule, Rule.ofRow? row = .ok rule)

include hread

/-- Each name looks up its own row among the rules that were found for all names, and what the
request comes to is decided on these. -/
theorem combine_of_reads (hne : names ≠ []) :
    ∃ found,
      (∀ name ∈ names, (s.rule? name).map Rule.ofRow? =
        (found.find? fun rule => rule.name == name).map .ok) ∧
      ∀ operator, (combine names operator s).result = combinationOf names operator (.ok found) := by
  have hrows : ∀ row ∈ s.rulesNamed names, ∃ rule, Rule.ofRow? row = .ok rule :=
    fun row hrow => hread row (List.mem_of_mem_filter hrow)
  obtain ⟨found, hfound, hlookup⟩ := Session.exists_found_of_reads hrows
  exact ⟨found, hlookup, fun operator => (ends_combine hne hfound operator).result_eq⟩

/-- Names that are missing are told before the operator is looked at. -/
theorem combine_of_missing (operator : Value)
    (h : (names.filter fun name => name ∉ s.current.ruleNames) ≠ []) :
    (combine names operator s).result =
      .error (.notFound (names.filter fun name => name ∉ s.current.ruleNames)) := by
  have hne : names ≠ [] := by
    rintro rfl
    exact h rfl
  obtain ⟨found, hlookup, hresult⟩ := combine_of_reads hread hne
  rw [hresult, combinationOf, missing_of_found hlookup, if_neg (mt List.isEmpty_iff.mp h)]

/-- Names that are all stored have rules, and the formulas of these are combined in the order of the
names. -/
theorem combine_of_stored (hne : names ≠ []) (h : ∀ name ∈ names, name ∈ s.current.ruleNames) :
    ∃ rules : List Rule,
      names.map (fun name => (Session.findRule name s).result) =
        rules.map (fun rule => .ok (some rule)) ∧
      ∀ operator, (combine names operator s).result =
        (Formula.combine operator (rules.map (·.formula))).mapError .combination := by
  obtain ⟨found, hlookup, hresult⟩ := combine_of_reads hread hne
  have hsingle : ∀ name ∈ names, ∃ rule, (found.find? fun rule => rule.name == name) = some rule ∧
      (Session.findRule name s).result = .ok (some rule) := by
    intro name hname
    have hstored : s.rule? name ≠ none :=
      mt Session.rule?_eq_none_iff.mp (not_not_intro (h name hname))
    obtain ⟨row, hrow⟩ := Option.ne_none_iff_exists'.mp hstored
    obtain ⟨rule, hrule⟩ := hread row (List.mem_of_find?_eq_some hrow)
    have hfind := hlookup name hname
    rw [hrow, Option.map_some, hrule] at hfind
    obtain ⟨other, hother, heq⟩ := Option.map_eq_some_iff.mp hfind.symm
    obtain rfl := Except.ok.inj heq
    exact ⟨other, hother, by rw [Session.findRule_of_row hrow hrule]⟩
  obtain ⟨rules, hformulas, hrules⟩ := exists_rules hsingle
  have hmissing : (names.filter fun name => name ∉ s.current.ruleNames) = [] := by
    simpa using h
  refine ⟨rules, hrules, fun operator => ?_⟩
  rw [hresult, combinationOf, missing_of_found hlookup, hmissing, hformulas]
  rfl

/-- A request fails for missing names exactly if some name is not stored. -/
theorem exists_notFound_iff (hne : names ≠ []) (operator : Value) :
    (∃ absent, (combine names operator s).result = .error (.notFound absent)) ↔
      ∃ name ∈ names, name ∉ s.current.ruleNames := by
  constructor
  · rintro ⟨absent, habsent⟩
    by_contra hstored
    push Not at hstored
    obtain ⟨rules, -, hresult⟩ := combine_of_stored hread hne hstored
    rw [hresult] at habsent
    -- the errors of combining formulas are of another kind
    obtain ⟨e, -, he⟩ := exists_of_mapError_eq_error habsent
    cases he
  · rintro ⟨name, hname, habsent⟩
    refine ⟨_, combine_of_missing hread operator fun h => ?_⟩
    exact absurd (List.filter_eq_nil_iff.mp h name hname) (by simpa using habsent)

end Reads

/-- **What a combination comes to, in the order of the request.** Take any session in which each row
gives a rule back, any names, with repetitions or not, and any operator.

Without names there is nothing to combine. Otherwise the request fails for missing names exactly if
some name is not stored, and tells all of these, in the order of the request and as often as they
are asked for. Only if none is missing does the operator have to be AND or OR. Then the formula is
that of the first rule, joined with those of the others one after the other, where each rule is the
one that its name finds by itself: the comparisons of all of them stand in the formula in this
order, and a single name gives the formula of its rule. -/
theorem combine_in_order (s : Session)
    (hread : ∀ row ∈ s.current.rules, ∃ rule, Rule.ofRow? row = .ok rule)
    (names : List String) (operator : String) :
    let result := (combine names (.text operator) s).result
    let missing := names.filter fun name => name ∉ s.current.ruleNames
    (names = [] → result = .error (.combination .noNames)) ∧
    (names ≠ [] →
      ((∃ absent, result = .error (.notFound absent)) ↔
        ∃ name ∈ names, name ∉ s.current.ruleNames) ∧
      (missing ≠ [] → result = .error (.notFound missing)) ∧
      (missing = [] → operator ≠ "AND" → operator ≠ "OR" →
        result = .error (.combination (.unknownOperator (.text operator)))) ∧
      (missing = [] → ∀ op : Connective, operator = op.keyword → ∃ first rest,
        names.map (fun name => (Session.findRule name s).result) =
          (first :: rest).map (fun rule => .ok (some rule)) ∧
        ∃ f, result = .ok f ∧
          f = rest.foldl (fun joined rule => .join op joined rule.formula) first.formula ∧
          f.comparisons = (first :: rest).flatMap (fun rule => rule.formula.comparisons) ∧
          (∀ name, names = [name] → f = first.formula))) := by
  intro result missing
  refine ⟨?_, fun hne => ?_⟩
  · rintro rfl
    rfl
  have hall (h : missing = []) : ∀ name ∈ names, name ∈ s.current.ruleNames := by
    simpa [missing] using h
  refine ⟨exists_notFound_iff hread hne _, combine_of_missing hread _, ?_, ?_⟩
  · intro h hand hor
    obtain ⟨rules, -, hresult⟩ := combine_of_stored hread hne (hall h)
    have hunknown : Connective.ofKeyword? operator = none := by
      rw [Connective.ofKeyword?, if_neg hand, if_neg hor]
    show (combine names (.text operator) s).result = _
    rw [hresult, Formula.combine, Connective.ofValue?, hunknown]
    rfl
  · rintro h op rfl
    obtain ⟨rules, hrules, hresult⟩ := combine_of_stored hread hne (hall h)
    cases rules with
    | nil => exact absurd (List.map_eq_nil_iff.mp hrules) hne
    | cons first rest =>
        have hjoined : result = .ok (Formula.joinAll op first.formula (rest.map (·.formula))) := by
          show (combine names (.text op.keyword) s).result = _
          rw [hresult, List.map_cons, Formula.combine_keyword]
          rfl
        refine ⟨first, rest, hrules, _, hjoined, ?_, ?_, ?_⟩
        · rw [Formula.joinAll, List.foldl_map]
        · rw [Formula.comparisons_joinAll, ← List.map_cons, List.flatMap_map]
        · rintro name rfl
          obtain rfl : rest = [] := by simpa using congrArg List.length hrules
          rfl

/-- Two rules are asked for in another order than they are stored in, and one of them twice. Then
names that are missing are asked for, one of them twice, under an operator that means nothing. -/
theorem combine_in_order_of_repeated :
    let r : Rule := ⟨"r", "age > 30", .atom ⟨"age", ">", .number (.int 30)⟩⟩
    let t : Rule := ⟨"t", "city = 'Paris'", .atom ⟨"city", "=", .text "Paris"⟩⟩
    let s : Session := .ofTables ⟨[r.toRow, t.toRow], []⟩
    (∀ row ∈ s.current.rules, ∃ rule, Rule.ofRow? row = .ok rule) ∧
      (combine ["t", "r", "t"] (.text "OR") s).result =
        .ok (.join .or (.join .or t.formula r.formula) t.formula) ∧
      (combine ["x", "t", "x", "y"] (.text "XOR") s).result = .error (.notFound ["x", "x", "y"]) := by
  intro r t s
  have hr : Rule.ofRow? r.toRow = .ok r := Rule.ofRow?_toRow (by decide) (by decide)
  have ht : Rule.ofRow? t.toRow = .ok t := Rule.ofRow?_toRow (by decide) (by decide)
  have hread : ∀ row ∈ s.current.rules, ∃ rule, Rule.ofRow? row = .ok rule := by
    intro row hrow
    rcases List.mem_cons.mp hrow with rfl | hrow
    · exact ⟨r, hr⟩
    · rw [List.mem_singleton.mp hrow]
      exact ⟨t, ht⟩
  refine ⟨hread, ?_, ?_⟩
  · obtain ⟨-, -, -, hcombined⟩ := (combine_in_order s hread ["t", "r", "t"] "OR").2 (by decide)
    obtain ⟨first, rest, hrules, f, hresult, rfl, -⟩ := hcombined rfl .or rfl
    have hinjective : Function.Injective fun rule : Rule =>
        (.ok (some rule) : Except RuleError (Option Rule)) :=
      fun _ _ h => Option.some.inj (Except.ok.inj h)
    have hfindr : (Session.findRule "r" s).result = .ok (some r) := by
      rw [Session.findRule_of_row rfl hr]
    have hfindt : (Session.findRule "t" s).result = .ok (some t) := by
      rw [Session.findRule_of_row rfl ht]
    rw [List.map_cons, List.map_cons, List.map_cons, List.map_nil, hfindr, hfindt] at hrules
    have hfound : [t, r, t] = first :: rest := List.map_injective_iff.mpr hinjective hrules
    obtain ⟨rfl, rfl⟩ := List.cons.inj hfound
    exact hresult
  · have hmissing := ((combine_in_order s hread ["x", "t", "x", "y"] "XOR").2 (by decide)).2.1
    exact hmissing (by decide)

end RuleBook

end Eligibility

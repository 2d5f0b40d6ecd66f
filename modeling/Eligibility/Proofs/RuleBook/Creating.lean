import Eligibility.Proofs.Catalog.Registering
import Eligibility.Proofs.RuleBook.Reading
import Eligibility.Proofs.Rule.RoundTrip

/-!
# Creating rules

A creation that succeeds adds one rule under a free name, with the formula that its text reads as,
and an entry for each attribute of the formula that was not known. A creation that fails adds no
rule. Its lookups and checks come before anything is written, and the writes cannot fail: the name
was found free before, and the attributes to be registered are unknown ones. Only a rule without a
name is turned down after its attributes have been registered (`create_cases`).

What a creation that succeeds does, all of it and in the terms of those who ask for it, is
`create_adds`.
-/

namespace Eligibility

open Token

theorem Token.scan_empty : scan "" = [] := by
  simp [scan, scanFrom]

namespace Formula

variable {text : String} {maxDepth : Nat} {f : Formula}

theorem text_ne_empty_of_ofText? (h : ofText? text maxDepth = .ok f) : text ≠ "" := by
  intro hempty
  rw [hempty, ofText?, scan_empty] at h
  cases h

theorem attribute_ne_empty_of_ofText? (h : ofText? text maxDepth = .ok f) :
    ∀ name ∈ f.attributes, name ≠ "" := by
  intro name hname
  obtain ⟨c, hc, rfl⟩ := List.mem_map.mp hname
  -- the scanner makes one word of the name, and of the empty text it makes nothing
  have hword := (spellable_of_ofText? h c hc).scan_name
  intro hempty
  rw [hempty, scan_empty] at hword
  cases hword

end Formula

namespace Session

variable {s s' : Session} {rule : Rule}

theorem ends_storeRule {inserted : Bool} (h : s.insertRule rule.toRow = (inserted, s')) :
    (storeRule rule).Ends s (if inserted then .ok () else .error (.duplicate rule.name)) s' := by
  refine (Action.ends_step h).bind ?_
  cases inserted <;> exact ⟨_, rfl⟩

theorem ends_storeAttributes {added : List Attribute} {inserted : Bool}
    (h : s.insertAttributes added = (inserted, s')) :
    (storeAttributes added).Ends s
      (if inserted then .ok () else .error (.catalog (.namesTaken (added.map (·.name))))) s' := by
  refine (Action.ends_step h).bind ?_
  cases inserted <;> exact ⟨_, rfl⟩

theorem change_storeRule (rule : Rule) (s : Session) : s.Change (storeRule rule s).state := by
  have hends : (storeRule rule).Ends s _ (s.insertRule rule.toRow).2 := ends_storeRule rfl
  rw [hends.state_eq]
  exact change_insertRule s rule.toRow

theorem change_storeAttributes (added : List Attribute) (s : Session) :
    s.Change (storeAttributes added s).state := by
  have hends : (storeAttributes added).Ends s _ (s.insertAttributes added).2 :=
    ends_storeAttributes rfl
  rw [hends.state_eq]
  exact change_insertAttributes s added

end Session

namespace RuleBook

variable {policy : Policy} {name text : String} {s : Session} {f : Formula}

/-- The session with a rule and the entries of its unknown attributes. -/
def withRule (policy : Policy) (rule : Rule) (s : Session) : Session :=
  s.add [rule.toRow] (s.current.guessedEntries policy.hints rule.formula.attributes)

theorem ends_validate_of_ofText? (hread : Formula.ofText? text policy.maxDepth = .ok f)
    (s : Session) :
    (Session.catalog.validate policy.hints f).Ends s (.ok ())
      (s.add [] (s.current.guessedEntries policy.hints f.attributes)) := by
  refine Catalog.ends_validate policy.hints fun name hname => ?_
  exact Formula.attribute_ne_empty_of_ofText? hread name (Tables.mem_unknown.mp hname).1

theorem mem_ruleNames_withRule (policy : Policy) (rule : Rule) (s : Session) :
    rule.name ∈ (withRule policy rule s).current.ruleNames :=
  List.mem_map_of_mem (List.mem_append_right _ (List.mem_singleton.mpr rfl))

/-- A text within the limit that can be read becomes a rule, under a name that is given and free. -/
theorem ends_create (hlength : checkLength policy text = .ok ()) (hfree : s.rule? name = none)
    (hread : Formula.ofText? text policy.maxDepth = .ok f) (hname : name ≠ "") :
    (create policy name text).Ends s (.ok f) (withRule policy ⟨name, text, f⟩ s) := by
  have hmake : (Rule.make? name text f).mapError RuleError.entry = .ok ⟨name, text, f⟩ := by
    rw [Rule.make?_of_ne hname (Formula.text_ne_empty_of_ofText? hread)]
    rfl
  -- registering attributes takes no name of a rule away
  have hinsert : (s.add [] (s.current.guessedEntries policy.hints f.attributes)).insertRule
      (Rule.toRow ⟨name, text, f⟩) = (true, withRule policy ⟨name, text, f⟩ s) := by
    rw [Session.insertRule_of_free, Session.add_add, List.append_nil]
    · rfl
    · rw [Session.rule?_eq_none_iff] at hfree ⊢
      simpa [Session.add, Tables.append, Tables.ruleNames, Rule.toRow] using hfree
  unfold create
  rw [hlength, hread]
  refine .bind (Action.ends_ofExcept _ s) (.bind ⟨_, Session.findRule_of_none hfree⟩ ?_)
  show (Action.ofExcept _ >>= _).Ends s _ _
  refine .bind (Action.ends_ofExcept _ s) ((ends_validate_of_ofText? hread s).bind ?_)
  refine .bind ⟨_, Action.ofExcept_of_eq hmake _⟩ ?_
  exact (Session.ends_storeRule hinsert).bind ⟨_, rfl⟩

/-- The new rule is found under its name. -/
theorem findRule_withRule (hfree : s.rule? name = none) (hname : name ≠ "") (htext : text ≠ "") :
    (Session.findRule name (withRule policy ⟨name, text, f⟩ s)).result =
      .ok (some ⟨name, text, f⟩) := by
  have hrow : (withRule policy ⟨name, text, f⟩ s).rule? name = some (Rule.toRow ⟨name, text, f⟩) :=
    Session.rule?_of_concat (Rule.toRow ⟨name, text, f⟩) rfl hfree
  have hrule : Rule.ofRow? (Rule.toRow ⟨name, text, f⟩) = .ok ⟨name, text, f⟩ :=
    Rule.ofRow?_toRow hname htext
  rw [Session.findRule_of_row hrow hrule]

/-- The new rule is listed behind all others. -/
theorem listRules_withRule (hname : name ≠ "") (htext : text ≠ "") :
    (Session.listRules (withRule policy ⟨name, text, f⟩ s)).result =
      (Session.listRules s).result.map (· ++ [⟨name, text, f⟩]) := by
  rw [(Session.ends_listRules _).result_eq, (Session.ends_listRules s).result_eq]
  exact Session.listed_concat s.current.rules hname htext

theorem checkLength_of_le (h : ∀ limit, policy.maxLength = some limit → text.length ≤ limit) :
    checkLength policy text = .ok () := by
  unfold checkLength
  cases hlimit : policy.maxLength with
  | none => rfl
  | some limit => exact if_neg (Int.not_lt.mpr (h limit hlimit))

/-- **What a creation does.** Under a name that is given and not taken, a text within the limit that
can be read becomes the last rule of the session. Each attribute of its formula that was not known
gets one entry, in the order of first appearance, with the type that its name hints at. Nothing else
changes, and the formula that is returned is the one that is listed and found from then on. -/
theorem create_adds (hname : name ≠ "") (hfree : ∀ row ∈ s.current.rules, row.name ≠ name)
    (hlength : ∀ limit, policy.maxLength = some limit → text.length ≤ limit)
    (hread : Formula.ofText? text policy.maxDepth = .ok f) :
    let reply := create policy name text s
    ∃ entries : List Attribute,
      reply.result = .ok f ∧
      reply.state = { s with current := ⟨s.current.rules ++ [⟨name, text, f.toValue⟩],
        s.current.attributes ++ entries⟩ } ∧
      entries.map (·.name) = f.attributes.eraseDups.filter
        (fun a => a ∉ s.current.attributes.map (·.name)) ∧
      (∀ a ∈ entries, a.allowed = none ∧
        (a.dataType = .number ∧ Hinted policy.hints a.name ∨
          a.dataType = .string ∧ ¬ Hinted policy.hints a.name)) ∧
      (Session.listRules reply.state).result =
        (Session.listRules s).result.map (· ++ [⟨name, text, f⟩]) ∧
      (Session.findRule name reply.state).result = .ok (some ⟨name, text, f⟩) := by
  intro reply
  have hnone : s.rule? name = none := by
    rw [Session.rule?_eq_none_iff]
    intro hmem
    obtain ⟨row, hrow, heq⟩ := List.mem_map.mp hmem
    exact hfree row hrow heq
  have htext := Formula.text_ne_empty_of_ofText? hread
  have hends := ends_create (checkLength_of_le hlength) hnone hread hname
  have hstate : reply.state = withRule policy ⟨name, text, f⟩ s := hends.state_eq
  refine ⟨s.current.guessedEntries policy.hints f.attributes, hends.result_eq, hstate,
    Tables.map_name_guessedEntries policy.hints, ?_, ?_, ?_⟩
  · intro a ha
    obtain ⟨unknown, -, rfl⟩ := List.mem_map.mp ha
    exact ⟨rfl, DataType.guess_cases policy.hints unknown⟩
  · rw [hstate]
    exact listRules_withRule hname htext
  · rw [hstate]
    exact findRule_withRule hnone hname htext

/-- Of the attributes, one is known already and the other one is mentioned twice. -/
theorem create_adds_of_known :
    let policy : Policy := ⟨["AGE"], some 38, 1⟩
    let old : Rule := ⟨"old", "vip = 'no'", .atom ⟨"vip", "=", .text "no"⟩⟩
    let s : Session := ⟨.empty, ⟨[old.toRow], [⟨"vip", .boolean, none⟩]⟩⟩
    let text := "age > 30 AND (vip = 'yes' OR age < 18)"
    let f : Formula := .join .and (.atom ⟨"age", ">", .number (.int 30)⟩)
      (.join .or (.atom ⟨"vip", "=", .text "yes"⟩) (.atom ⟨"age", "<", .number (.int 18)⟩))
    let reply := create policy "r" text s
    Formula.ofText? text policy.maxDepth = .ok f ∧ reply.result = .ok f ∧
      reply.state = ⟨.empty, ⟨[old.toRow, ⟨"r", text, f.toValue⟩],
        [⟨"vip", .boolean, none⟩, ⟨"age", .number, none⟩]⟩⟩ := by
  intro policy old s text f reply
  have hscan : Token.scan text =
      [⟨.name, "age", 0⟩, ⟨.comparison, ">", 4⟩, ⟨.number, "30", 6⟩, ⟨.connective .and, "AND", 9⟩,
        ⟨.opening, "(", 13⟩, ⟨.name, "vip", 14⟩, ⟨.comparison, "=", 18⟩, ⟨.quoted, "'yes'", 20⟩,
        ⟨.connective .or, "OR", 26⟩, ⟨.name, "age", 29⟩, ⟨.comparison, "<", 33⟩, ⟨.number, "18", 35⟩,
        ⟨.closing, ")", 37⟩] := by decide +kernel
  have hread : Formula.ofText? text policy.maxDepth = .ok f := by
    rw [Formula.ofText?, hscan]
    rfl
  have hfree : ∀ row ∈ s.current.rules, row.name ≠ "r" := by
    intro row hrow
    obtain rfl := List.mem_singleton.mp hrow
    decide
  have hlength : ∀ limit, policy.maxLength = some limit → text.length ≤ limit := by
    rintro limit ⟨⟩
    decide +kernel
  obtain ⟨entries, hresult, hstate, hnames, hentries, -⟩ :=
    @create_adds policy "r" text s f (by decide) hfree hlength hread
  have hattributes : f.attributes = ["age", "vip", "age"] := by
    simp [f, Formula.attributes]
  rw [hattributes] at hnames
  obtain ⟨⟨name, type, allowed⟩, rest, rfl, hname, hrest⟩ :=
    List.map_eq_cons_iff.mp (hnames.trans (show _ = ["age"] from rfl))
  obtain rfl : name = "age" := hname
  obtain rfl : rest = [] := List.map_eq_nil_iff.mp hrest
  obtain ⟨hallowed, htype⟩ := hentries _ (List.mem_singleton.mpr rfl)
  have hhinted : Hinted policy.hints "age" := ⟨"AGE", List.mem_singleton.mpr rfl, by decide +kernel⟩
  obtain ⟨rfl, -⟩ := htype.resolve_right fun h => h.2 hhinted
  obtain rfl : allowed = none := hallowed
  exact ⟨hread, hresult, hstate⟩

/-- A text that could become a rule is turned down if it is to have no name, after its attributes
have been registered. -/
theorem ends_create_of_no_name (hlength : checkLength policy text = .ok ())
    (hfree : s.rule? "" = none) (hread : Formula.ofText? text policy.maxDepth = .ok f) :
    (create policy "" text).Ends s (.error (.entry .ruleNameRequired))
      (s.add [] (s.current.guessedEntries policy.hints f.attributes)) := by
  have hmake : (Rule.make? "" text f).mapError RuleError.entry =
      .error (.entry .ruleNameRequired) := rfl
  unfold create
  rw [hlength, hread]
  refine .bind (Action.ends_ofExcept _ s) (.bind ⟨_, Session.findRule_of_none hfree⟩ ?_)
  show (Action.ofExcept _ >>= _).Ends s _ _
  refine .bind (Action.ends_ofExcept _ s) ((ends_validate_of_ofText? hread s).bind ?_)
  exact Action.Ends.bind_error ⟨_, Action.ofExcept_of_eq hmake _⟩ _

/-- Why a creation is turned down before anything is written. -/
inductive Refuses (policy : Policy) (name text : String) (s : Session) : RuleError → Prop
  | tooLong {e : RuleError} (hlength : checkLength policy text = .error e) :
      Refuses policy name text s e
  | taken {row : RuleRow} {rule : Rule} (hlength : checkLength policy text = .ok ())
      (hrow : s.rule? name = some row) (hrule : Rule.ofRow? row = .ok rule) :
      Refuses policy name text s (.duplicate name)
  | spoilt {row : RuleRow} {e : RuleError} (hlength : checkLength policy text = .ok ())
      (hrow : s.rule? name = some row) (hrule : Rule.ofRow? row = .error e) :
      Refuses policy name text s e
  | malformed {e : RuleTextError} (hlength : checkLength policy text = .ok ())
      (hfree : s.rule? name = none) (hread : Formula.ofText? text policy.maxDepth = .error e) :
      Refuses policy name text s (.ofText e)

theorem Refuses.ends {e : RuleError} (h : Refuses policy name text s e) :
    (create policy name text).Ends s (.error e) s := by
  unfold create
  cases h with
  | tooLong hlength =>
      rw [hlength]
      exact (Action.ends_ofExcept _ s).bind_error _
  | taken hlength hrow hrule =>
      rw [hlength]
      refine .bind (Action.ends_ofExcept _ s) ?_
      exact Action.Ends.bind ⟨_, Session.findRule_of_row hrow hrule⟩ ⟨_, rfl⟩
  | spoilt hlength hrow hrule =>
      rw [hlength]
      refine .bind (Action.ends_ofExcept _ s) ?_
      exact Action.Ends.bind_error ⟨_, Session.findRule_of_error hrow hrule⟩ _
  | malformed hlength hfree hread =>
      rw [hlength, hread]
      refine .bind (Action.ends_ofExcept _ s) (.bind ⟨_, Session.findRule_of_none hfree⟩ ?_)
      exact ⟨_, rfl⟩

/-- All that a creation can come to: it is refused and changes nothing, it has no name and leaves
its attributes behind, or it adds the rule and its unknown attributes. -/
theorem create_cases (policy : Policy) (name text : String) (s : Session) :
    (∃ e, Refuses policy name text s e ∧ (create policy name text).Ends s (.error e) s) ∨
    (name = "" ∧ ∃ f, Formula.ofText? text policy.maxDepth = .ok f ∧
      (create policy name text).Ends s (.error (.entry .ruleNameRequired))
        (s.add [] (s.current.guessedEntries policy.hints f.attributes))) ∨
    ∃ f, checkLength policy text = .ok () ∧ name ≠ "" ∧ s.rule? name = none ∧
      Formula.ofText? text policy.maxDepth = .ok f ∧
      (create policy name text).Ends s (.ok f) (withRule policy ⟨name, text, f⟩ s) := by
  have hrefused {e : RuleError} (h : Refuses policy name text s e) :
      ∃ e, Refuses policy name text s e ∧ (create policy name text).Ends s (.error e) s :=
    ⟨e, h, h.ends⟩
  cases hlength : checkLength policy text with
  | error e => exact .inl (hrefused (.tooLong hlength))
  | ok _ =>
      cases hrow : s.rule? name with
      | some row =>
          left
          cases hrule : Rule.ofRow? row with
          | error e => exact hrefused (.spoilt hlength hrow hrule)
          | ok rule => exact hrefused (.taken hlength hrow hrule)
      | none =>
          cases hread : Formula.ofText? text policy.maxDepth with
          | error e => exact .inl (hrefused (.malformed hlength hrow hread))
          | ok f =>
              right
              by_cases hname : name = ""
              · subst hname
                exact .inl ⟨rfl, f, rfl, ends_create_of_no_name hlength hrow hread⟩
              · exact .inr ⟨f, rfl, hname, rfl, rfl, ends_create hlength hrow hread hname⟩

/-- What a creation that succeeds has found and done. -/
theorem create_of_ok (h : (create policy name text s).result = .ok f) :
    name ≠ "" ∧ s.rule? name = none ∧ Formula.ofText? text policy.maxDepth = .ok f ∧
      (create policy name text s).state = withRule policy ⟨name, text, f⟩ s := by
  rcases create_cases policy name text s with
    ⟨e, -, hends⟩ | ⟨-, g, -, hends⟩ | ⟨g, -, hname, hfree, hread, hends⟩
  · rw [hends.result_eq] at h
    exact nomatch h
  · rw [hends.result_eq] at h
    exact nomatch h
  · rw [hends.result_eq] at h
    obtain rfl := Except.ok.inj h
    exact ⟨hname, hfree, hread, hends.state_eq⟩

theorem change_create (policy : Policy) (name text : String) (s : Session) :
    s.Change (create policy name text s).state := by
  rcases create_cases policy name text s with
    ⟨e, -, hends⟩ | ⟨-, f, -, hends⟩ | ⟨f, -, -, hfree, -, hends⟩
  · exact .of_eq hends.state_eq
  · rw [hends.state_eq]
    exact .add [] _ (fresh_nil _) (Tables.fresh_guessedEntries policy.hints f.attributes)
  · rw [hends.state_eq]
    exact .add _ _ (fresh_singleton (Session.rule?_eq_none_iff.mp hfree))
      (Tables.fresh_guessedEntries policy.hints f.attributes)

end RuleBook

end Eligibility

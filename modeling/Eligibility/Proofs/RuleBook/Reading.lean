import Eligibility.Proofs.RuleBook.Combining

/-!
# Requests that only look

Looking rules up, combining, evaluating and listing them leave the session as it is, whatever they
come to. What an evaluation comes to depends on the row of the name alone (`evaluate_congr`), and a
listing goes through the rows one after the other, so rows that are added later are listed later
(`listed_append_eq`).
-/

namespace Eligibility

namespace Session

variable {γ : Type} {s s' : Session} {name : String}

theorem keeps_findRule (view : Session → γ) (name : String) : (findRule name).Keeps view := by
  refine Action.keeps_bind (fun _ => rfl) ?_
  intro found
  cases found with
  | none => exact fun _ => rfl
  | some row => exact Action.keeps_bind (fun _ => rfl) fun _ _ => rfl

theorem keeps_findRules (view : Session → γ) (names : List String) :
    (findRules names).Keeps view := Action.keeps_bind (fun _ => rfl) fun _ _ => rfl

theorem keeps_readRows (view : Session → γ) (rows : List RuleRow) :
    (readRows rows).Keeps view := by
  induction rows with
  | nil => exact fun _ => rfl
  | cons row rows ih =>
      unfold readRows
      cases Rule.ofRow? row with
      | ok rule => exact Action.keeps_bind ih fun _ _ => rfl
      | error e =>
          cases e with
          | invalid e => exact Action.keeps_bind (fun _ => rfl) fun _ => ih
          | _ => exact fun _ => rfl

theorem keeps_listRules (view : Session → γ) : listRules.Keeps view :=
  Action.keeps_bind (fun _ => rfl) fun rows => keeps_readRows view rows

theorem findRule_of_none (h : s.rule? name = none) : findRule name s = ⟨.ok none, s, []⟩ := by
  have hread : (Action.read fun s : Session => s.rule? name : Action Session RuleError _) s =
      ⟨.ok none, s, []⟩ := Action.read_of_eq h
  exact Action.bind_of_ok hread rfl

theorem findRule_of_error {row : RuleRow} {e : RuleError} (hrow : s.rule? name = some row)
    (h : Rule.ofRow? row = .error e) : findRule name s = ⟨.error e, s, []⟩ := by
  have hread : (Action.read fun s : Session => s.rule? name : Action Session RuleError _) s =
      ⟨.ok (some row), s, []⟩ := Action.read_of_eq hrow
  exact Action.bind_of_ok hread (Action.bind_of_error (Action.ofExcept_of_eq h s) _)

/-- What is found under a name depends on its row alone. -/
theorem exists_findRule (name : String) (h : s.rule? name = s'.rule? name) :
    ∃ found, findRule name s = ⟨found, s, []⟩ ∧ findRule name s' = ⟨found, s', []⟩ := by
  cases hrow : s.rule? name with
  | none => exact ⟨_, findRule_of_none hrow, findRule_of_none (h ▸ hrow)⟩
  | some row =>
      cases hread : Rule.ofRow? row with
      | error e =>
          exact ⟨_, findRule_of_error hrow hread, findRule_of_error (h ▸ hrow) hread⟩
      | ok rule => exact ⟨_, findRule_of_row hrow hread, findRule_of_row (h ▸ hrow) hread⟩

/-! ## Listing -/

/-- The rules of rows as they are listed: rows whose document is no formula are left out. -/
def listed : List RuleRow → Except RuleError (List Rule)
  | [] => .ok []
  | row :: rows =>
      match Rule.ofRow? row with
      | .ok rule => (listed rows).map (rule :: ·)
      | .error (.invalid _) => listed rows
      | .error e => .error e

theorem ends_readRows (rows : List RuleRow) (s : Session) :
    (readRows rows).Ends s (listed rows) s := by
  induction rows with
  | nil => exact ⟨_, rfl⟩
  | cons row rows ih =>
      unfold readRows listed
      cases Rule.ofRow? row with
      | ok rule =>
          cases hrest : listed rows with
          | ok rules => exact Action.Ends.bind (hrest ▸ ih) ⟨_, rfl⟩
          | error e => exact Action.Ends.bind_error (hrest ▸ ih) _
      | error e =>
          cases e with
          | invalid e => exact Action.Ends.bind ⟨_, rfl⟩ ih
          | _ => exact ⟨_, rfl⟩

theorem ends_listRules (s : Session) : listRules.Ends s (listed s.current.rules) s :=
  Action.Ends.bind ⟨_, rfl⟩ (ends_readRows s.current.rules s)

/-- Rows that come later are listed later, unless a row before them ends the listing. -/
theorem listed_append_eq (rows rows' : List RuleRow) :
    listed (rows ++ rows') = listed rows >>= fun first => (listed rows').map (first ++ ·) := by
  induction rows with
  | nil =>
      show listed rows' = (listed rows').map ([] ++ ·)
      cases listed rows' <;> rfl
  | cons row rows ih =>
      rw [List.cons_append, listed, listed]
      cases Rule.ofRow? row with
      | ok rule =>
          simp only [ih]
          cases listed rows with
          | error e => rfl
          | ok first => cases listed rows' <;> rfl
      | error e =>
          cases e with
          | invalid e => exact ih
          | _ => rfl

theorem listed_append {rows rows' : List RuleRow} {rules : List Rule}
    (h : listed (rows ++ rows') = .ok rules) :
    ∃ first last, listed rows = .ok first ∧ listed rows' = .ok last ∧ rules = first ++ last := by
  rw [listed_append_eq] at h
  obtain ⟨first, hfirst, hlast⟩ := exists_of_bind_eq_ok h
  cases hlisted : listed rows' with
  | error e =>
      rw [hlisted] at hlast
      exact nomatch hlast
  | ok last =>
      rw [hlisted] at hlast
      exact ⟨first, last, hfirst, rfl, (Except.ok.inj hlast).symm⟩

/-- A rule that is added is listed behind the rules before it. -/
theorem listed_concat (rows : List RuleRow) {rule : Rule} (hname : rule.name ≠ "")
    (htext : rule.text ≠ "") :
    listed (rows ++ [rule.toRow]) = (listed rows).map (· ++ [rule]) := by
  have hrule : listed [rule.toRow] = .ok [rule] := by
    rw [listed, Rule.ofRow?_toRow hname htext]
    rfl
  rw [listed_append_eq, hrule]
  cases listed rows <;> rfl

end Session

namespace RuleBook

variable {γ : Type} {s s' : Session} {name : String}

theorem keeps_combine (view : Session → γ) (names : List String) (operator : Value) :
    (combine names operator).Keeps view := by
  intro s
  by_cases hne : names = []
  · subst hne
    rfl
  · rw [(ends_combine hne (Session.findRules_of_mapM rfl) operator).state_eq]

theorem keeps_evaluate (view : Session → γ) (name : String) (record : Record) :
    (evaluate name record).Keeps view := by
  intro s
  obtain ⟨found, hfound, -⟩ := Session.exists_findRule name (rfl : s.rule? name = s.rule? name)
  rw [(ends_evaluate hfound record).state_eq]

/-- What an evaluation comes to depends on the row of the name alone. -/
theorem evaluate_congr (name : String) (record : Record) (h : s.rule? name = s'.rule? name) :
    (evaluate name record s).result = (evaluate name record s').result := by
  obtain ⟨found, hfound, hfound'⟩ := Session.exists_findRule name h
  rw [(ends_evaluate hfound record).result_eq, (ends_evaluate hfound' record).result_eq]

end RuleBook

end Eligibility

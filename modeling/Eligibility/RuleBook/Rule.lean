import Eligibility.Action
import Eligibility.RuleBook.Error
import Eligibility.Rule.Encoding
import Eligibility.Store.Session

/-!
# Stored rules

A rule has a name, the text it was written as, and its formula. The store keeps the formula
as a document, which may come from elsewhere: reading a row back decodes the document and
checks the name and the text again.
-/

namespace Eligibility

/-- A rule with a name. -/
structure Rule where
  name : String
  text : String
  formula : Formula

namespace Rule

/-- The name and the text of a rule are given; the name is looked at first. -/
def check (name text : Value) : Except EntryError Unit :=
  if name.isVoid then .error .ruleNameRequired
  else if text.isVoid then .error .ruleTextRequired
  else .ok ()

/-- A rule of the rule book. -/
def make? (name text : String) (formula : Formula) : Except EntryError Rule :=
  (check (.text name) (.text text)).map fun _ => ⟨name, text, formula⟩

/-- The rule as a row of the store. -/
def toRow (rule : Rule) : RuleRow := ⟨rule.name, rule.text, rule.formula.toValue⟩

/-- The rule of a row. The document is decoded before the name and the text are looked at. -/
def ofRow? (row : RuleRow) : Except RuleError Rule :=
  match Formula.ofValue? row.document with
  | .error e => .error (.invalid e)
  | .ok formula => (make? row.name row.text formula).mapError .entry

end Rule

namespace Session

/-- The rule of a name. -/
def findRule (name : String) : Action Session RuleError (Option Rule) := do
  match ← .read fun s : Session => s.rule? name with
  | none => return none
  | some row => return some (← .ofExcept (Rule.ofRow? row))

/-- The rules whose names are asked for, in the order of insertion. -/
def findRules (names : List String) : Action Session RuleError (List Rule) := do
  let rows ← .read fun s : Session => s.rulesNamed names
  .ofExcept (rows.mapM Rule.ofRow?)

/-- Stores a rule under its name. -/
def storeRule (rule : Rule) : Action Session RuleError Unit := do
  if ← .step fun s : Session => s.insertRule rule.toRow then return ()
  .note .warning "Rule insert rejected: name already exists" [("rule_name", .text rule.name)]
  .fail (.duplicate rule.name)

/-- The rules of a list of rows. A row whose document is no formula is noted and left out. -/
def readRows : List RuleRow → Action Session RuleError (List Rule)
  | [] => return []
  | row :: rows => do
      match Rule.ofRow? row with
      | .ok rule => return rule :: (← readRows rows)
      | .error (.invalid e) =>
          .note .warning "Skipping rule with invalid AST"
            [("rule_name", .text row.name), ("error", .text e.message)]
          readRows rows
      | .error e => .fail e

/-- All rules in the order of insertion. -/
def listRules : Action Session RuleError (List Rule) := do
  readRows (← .read fun s : Session => s.current.rules)

/-- Adds attributes to the catalog, all or none. -/
def storeAttributes (added : List Attribute) : Action Session RuleError Unit := do
  if ← .step fun s : Session => s.insertAttributes added then return ()
  .fail (.catalog (.namesTaken (added.map (·.name))))

end Session

end Eligibility

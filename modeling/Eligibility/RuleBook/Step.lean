import Eligibility.Document.Writer
import Eligibility.RuleBook.Basic
import Eligibility.Store.Query

/-!
# Steps

What is asked of a session, one step after the other. A row that is put in from elsewhere is
refused if its name is taken, and this breaks the session: whatever was pending is undone, and
until the session is rolled back it refuses each step that needs the database. A step that is
settled without the database is taken all the same.
-/

namespace Eligibility

/-- A step on a session, with the type of its result. -/
inductive Step : Type → Type where
  /-- Create a rule from its text. -/
  | create (name text : String) : Step Formula
  /-- Combine the rules of some names. -/
  | combine (names : List String) (operator : Value) : Step Formula
  /-- Evaluate the rule of a name. -/
  | evaluate (name : String) (record : Record) : Step Evaluation
  /-- List the rules. -/
  | rules : Step (List Rule)
  /-- Look up the rule of a name. -/
  | rule (name : String) : Step (Option Rule)
  /-- Look up the rules of some names. -/
  | rulesNamed (names : List String) : Step (List Rule)
  /-- Store a rule, whatever attributes it mentions. -/
  | storeRule (added : Rule) : Step Unit
  /-- List the attributes by name. -/
  | attributes : Step (List Attribute)
  /-- Look up the attribute of a name. -/
  | attribute (name : String) : Step (Option Attribute)
  /-- Look up the attributes of some names. -/
  | attributesNamed (names : List String) : Step (List Attribute)
  /-- Store attributes, all or none. -/
  | storeAttributes (added : List Attribute) : Step Unit
  /-- Tell which names the catalog does not have. -/
  | findMissing (names : List String) : Step (List String)
  /-- Register the names that the catalog does not have. -/
  | registerMissing (names : List String) : Step (List Attribute)
  /-- Make sure that the catalog has every attribute of a formula. -/
  | validate (formula : Formula) : Step Unit
  /-- Make the pending changes permanent. -/
  | commit : Step Unit

namespace Step

/-- What a step does to a session that works. -/
def work (policy : Policy) : {α : Type} → Step α → Action Session RuleError α
  | _, .create name text => RuleBook.create policy name text
  | _, .combine names operator => RuleBook.combine names operator
  | _, .evaluate name record => RuleBook.evaluate name record
  | _, .rules => Session.listRules
  | _, .rule name => Session.findRule name
  | _, .rulesNamed names => Session.findRules names
  | _, .storeRule added => Session.storeRule added
  | _, .attributes => .read Session.attributesByName
  | _, .attribute name => .read fun s : Session => s.attribute? name
  | _, .attributesNamed names => .read fun s : Session => s.attributesNamed names
  | _, .storeAttributes added => Session.storeAttributes added
  | _, .findMissing names => Session.catalog.findMissing names
  | _, .registerMissing names => Session.catalog.registerMissing policy.hints names
  | _, .validate formula => Session.catalog.validate policy.hints formula
  | _, .commit => .change Session.commit

/-- The step needs the database. A text that is too long is turned down before, and a list
without entries leaves nothing to ask. -/
def needsDatabase (policy : Policy) : {α : Type} → Step α → Bool
  | _, .create _ text => (RuleBook.checkLength policy text).isOk
  | _, .combine names _ => !names.isEmpty
  | _, .rulesNamed names => !names.isEmpty
  | _, .attributesNamed names => !names.isEmpty
  | _, .storeAttributes added => !added.isEmpty
  | _, .findMissing names => !names.isEmpty
  | _, .registerMissing names => !names.isEmpty
  | _, _ => true

/-- The step begins by handing rows to the session, to be written together with those that
wait in it. -/
def handsOver : {α : Type} → Step α → Bool
  | _, .storeRule _ => true
  | _, .storeAttributes _ => true
  | _, _ => false

end Step

/-- A session, or what is left of one. -/
inductive SessionState where
  /-- The session works. -/
  | working (session : Session)
  /-- An insertion was refused, and the session has not been rolled back since. What was
  committed is still there, and rows that were handed over since may wait to be written. -/
  | broken (committed : Tables) (refused : Query) (rowsWait : Bool)

/-- Why a step fails. -/
inductive StepError where
  | rule (e : RuleError)
  /-- An insertion is refused, as its name is taken. -/
  | nameTaken (refused : Query)
  /-- The session was broken by an insertion and has to be rolled back first. -/
  | rollbackNeeded (refused : Query)

/-- The message of the error. -/
def StepError.message : StepError → String
  | .rule e => e.message
  | .nameTaken refused => refused.nameTaken
  | .rollbackNeeded refused =>
      "This Session's transaction has been rolled back due to a previous exception during " ++
        "flush. To begin a new transaction with this Session, first issue Session.rollback(). " ++
        s!"Original exception was: {refused.nameTaken} " ++
        "(Background on this error at: https://sqlalche.me/e/21/7s2a)"

namespace SessionState

/-- Nothing is stored. -/
def empty : SessionState := .working (.ofTables .empty)

/-- Undoes the pending changes. A broken session works again. -/
def rollback : SessionState → SessionState
  | .working s => .working s.rollback
  | .broken committed _ _ => .working (.ofTables committed)

/-- Takes a step. A broken session refuses the step if it needs the database or would have to
write rows that wait. -/
def take {α : Type} (policy : Policy) (step : Step α) : Action SessionState StepError α
  | .working s =>
      let reply := (step.work policy).mapError .rule s
      ⟨reply.result, .working reply.state, reply.log⟩
  | .broken committed refused rowsWait =>
      if step.needsDatabase policy || rowsWait && step.handsOver then
        ⟨.error (.rollbackNeeded refused),
          .broken committed refused (rowsWait || step.handsOver), []⟩
      else
        let reply := (step.work policy).mapError .rule (.ofTables committed)
        ⟨reply.result, .broken committed refused rowsWait, reply.log⟩

/-- Puts a row of a name, a text and any document into the table of rules. If the name is
taken, this breaks the session. -/
def insertRow (name text : String) (document : Value) : Action SessionState StepError Unit
  | .working s =>
      match s.insertRule (.raw name text document) with
      | (true, s) => ⟨.ok (), .working s, []⟩
      | (false, s) =>
          let refused := Query.insertion name text document.write
          ⟨.error (.nameTaken refused), .broken s.committed refused false, []⟩
  | .broken committed refused _ =>
      ⟨.error (.rollbackNeeded refused), .broken committed refused true, []⟩

end SessionState

end Eligibility

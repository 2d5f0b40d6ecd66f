import Eligibility.Api.Server
import Eligibility.Proofs.Log.Context

/-!
# What requests write to the log

Each action of the program writes ordinary events, whatever state it works on: the fields of an
event have names of their own, and none is that of the identifier. This goes through the actions
from the catalog up to the answer to a request (`logs_dispatch`), one lemma for each of them.
-/

namespace Eligibility

open Eligibility.Action

/-- All events that the action writes to the log are ordinary. -/
def Action.LogsOrdinary {σ ε α : Type} (x : Action σ ε α) : Prop := x.Logs LogEvent.IsOrdinary

namespace Catalog

variable {σ : Type} (catalog : Catalog σ) (hints : List String)

theorem logs_findMissing (names : List String) : (catalog.findMissing names).LogsOrdinary :=
  logs_silent_bind (fun _ => rfl) fun _ => logs_of_silent fun _ => rfl

theorem logs_registerMissing (names : List String) :
    (catalog.registerMissing hints names).LogsOrdinary := by
  refine logs_bind (catalog.logs_findMissing names) fun missing => ?_
  split
  · exact logs_of_silent fun _ => rfl
  · refine logs_silent_bind (fun _ => rfl) fun attributes => ?_
    refine logs_note_bind (by simp [LogEvent.IsOrdinary]) ?_
    refine logs_silent_bind (fun _ => rfl) fun written => ?_
    split
    · exact logs_note_silent (by simp [LogEvent.IsOrdinary]) fun _ => rfl
    · exact logs_note_silent (by simp [LogEvent.IsOrdinary]) fun _ => rfl

theorem logs_validate (f : Formula) : (catalog.validate hints f).LogsOrdinary := by
  refine logs_bind (catalog.logs_registerMissing hints _) fun _ => ?_
  refine logs_bind (catalog.logs_findMissing _) fun missing => ?_
  split
  · exact logs_of_silent fun _ => rfl
  · exact logs_note_silent (by simp [LogEvent.IsOrdinary]) fun _ => rfl

end Catalog

namespace Session

theorem logs_findRule (name : String) : (findRule name).LogsOrdinary := by
  refine logs_silent_bind (fun _ => rfl) fun row => ?_
  split
  · exact logs_of_silent fun _ => rfl
  · exact logs_silent_bind (fun _ => rfl) fun _ => logs_of_silent fun _ => rfl

theorem logs_findRules (names : List String) : (findRules names).LogsOrdinary :=
  logs_silent_bind (fun _ => rfl) fun _ => logs_of_silent fun _ => rfl

theorem logs_storeRule (rule : Rule) : (storeRule rule).LogsOrdinary := by
  refine logs_silent_bind (fun _ => rfl) fun isStored => ?_
  split
  · exact logs_of_silent fun _ => rfl
  · exact logs_note_silent (by simp [LogEvent.IsOrdinary]) fun _ => rfl

theorem logs_readRows (rows : List RuleRow) : (readRows rows).LogsOrdinary := by
  induction rows with
  | nil => exact logs_of_silent fun _ => rfl
  | cons row rows ih =>
      unfold readRows
      split
      · exact logs_bind ih fun _ => logs_of_silent fun _ => rfl
      · exact logs_note_bind (by simp [LogEvent.IsOrdinary]) ih
      · exact logs_of_silent fun _ => rfl

theorem logs_listRules : listRules.LogsOrdinary :=
  logs_silent_bind (fun _ => rfl) logs_readRows

theorem logs_storeAttributes (added : List Attribute) : (storeAttributes added).LogsOrdinary := by
  refine logs_silent_bind (fun _ => rfl) fun isStored => ?_
  split
  · exact logs_of_silent fun _ => rfl
  · exact logs_of_silent fun _ => rfl

end Session

namespace RuleBook

theorem logs_create (policy : Policy) (name text : String) :
    (create policy name text).LogsOrdinary := by
  refine logs_silent_bind (fun _ => rfl) fun _ => ?_
  refine logs_bind (Session.logs_findRule name) fun found => ?_
  split
  · exact logs_of_silent fun _ => rfl
  · refine logs_silent_bind (fun _ => rfl) fun formula => ?_
    refine logs_bind (Session.catalog.logs_validate policy.hints formula) fun _ => ?_
    refine logs_silent_bind (fun _ => rfl) fun rule => ?_
    refine logs_bind (Session.logs_storeRule rule) fun _ => ?_
    exact logs_note_silent (by simp [LogEvent.IsOrdinary]) fun _ => rfl

theorem logs_combine (names : List String) (operator : Value) :
    (combine names operator).LogsOrdinary := by
  unfold combine
  split
  · exact logs_of_silent fun _ => rfl
  · refine logs_bind (Session.logs_findRules names) fun found => ?_
    dsimp only
    split
    · refine logs_silent_bind (fun _ => rfl) fun combined => ?_
      exact logs_note_silent (by simp [LogEvent.IsOrdinary]) fun _ => rfl
    · exact logs_note_silent (by simp [LogEvent.IsOrdinary]) fun _ => rfl

theorem logs_evaluate (name : String) (record : Record) :
    (evaluate name record).LogsOrdinary := by
  refine logs_bind (logs_attempt (Session.logs_findRule name)) fun found => ?_
  split
  · exact logs_note_silent (by simp [LogEvent.IsOrdinary]) fun _ => rfl
  · exact logs_of_silent fun _ => rfl
  · exact logs_of_silent fun _ => rfl
  · refine logs_silent_bind (fun _ => rfl) fun outcome => ?_
    exact logs_note_silent (by simp [LogEvent.IsOrdinary]) fun _ => rfl

end RuleBook

namespace Handler

theorem logs_respond (status : Nat) (v : Value) : (respond status v).LogsOrdinary := by
  unfold respond
  split
  · exact logs_of_silent fun _ => rfl
  · exact logs_of_silent fun _ => rfl

theorem logs_respondAttributes (status : Nat) (attributes : List Attribute) (v : Value) :
    (respondAttributes status attributes v).LogsOrdinary := by
  unfold respondAttributes
  split
  · exact logs_of_silent fun _ => rfl
  · exact logs_of_silent fun _ => rfl

theorem logs_createRule (policy : Policy) (body : CreateRule) :
    (createRule policy body).LogsOrdinary := by
  have hreject (message : String) : (createRule.reject body message).LogsOrdinary :=
    logs_note_silent (by simp [LogEvent.IsOrdinary]) fun _ => rfl
  refine logs_bind (logs_attempt (RuleBook.logs_create policy body.name body.text)) fun made => ?_
  split
  · exact logs_silent_bind (fun _ => rfl) fun _ => logs_respond _ _
  · exact logs_of_silent fun _ => rfl
  · exact hreject _
  · exact hreject _
  · exact logs_of_silent fun _ => rfl

theorem logs_listRules : listRules.LogsOrdinary :=
  logs_bind (logs_mapError Session.logs_listRules _) fun _ => logs_respond _ _

theorem logs_combineRules (body : CombineRules) : (combineRules body).LogsOrdinary := by
  refine logs_bind (logs_attempt (RuleBook.logs_combine body.names _)) fun combined => ?_
  split
  · exact logs_respond _ _
  · exact logs_respond _ _
  · exact logs_of_silent fun _ => rfl

theorem logs_evaluateDocument (body : EvaluateDocument) : (evaluateDocument body).LogsOrdinary :=
  logs_silent_bind (fun _ => rfl) fun _ => logs_respond _ _

theorem logs_evaluateRule (name : String) (body : EvaluateRule) :
    (evaluateRule name body).LogsOrdinary := by
  refine logs_bind (logs_attempt (RuleBook.logs_evaluate name body.data)) fun evaluated => ?_
  split
  · exact logs_respond _ _
  · exact logs_respond _ _
  · exact logs_of_silent fun _ => rfl

theorem logs_listAttributes : listAttributes.LogsOrdinary :=
  logs_silent_bind (fun _ => rfl) fun _ => logs_respondAttributes _ _ _

theorem logs_createAttribute (a : Attribute) : (createAttribute a).LogsOrdinary := by
  refine logs_silent_bind (fun _ => rfl) fun known => ?_
  split
  · exact logs_of_silent fun _ => rfl
  · refine logs_bind (logs_attempt (Session.logs_storeAttributes [a])) fun stored => ?_
    split
    · exact logs_of_silent fun _ => rfl
    · refine logs_silent_bind (fun _ => rfl) fun _ => ?_
      exact logs_note_bind (by simp [LogEvent.IsOrdinary]) (logs_respondAttributes _ _ _)

end Handler

namespace Server

variable (request : Request)

theorem logs_openEngine : openEngine.LogsOrdinary := by
  refine logs_silent_bind (fun _ => rfl) fun hasEngine => ?_
  split
  · exact logs_of_silent fun _ => rfl
  · exact logs_note_silent (by simp [LogEvent.IsOrdinary]) fun _ => rfl

theorem logs_openSession : openSession.LogsOrdinary := by
  refine logs_silent_bind (fun _ => rfl) fun settings => ?_
  split
  · exact logs_of_silent fun _ => rfl
  · refine logs_bind logs_openEngine fun _ => ?_
    refine logs_silent_bind (fun _ => rfl) fun hasSessions => ?_
    split
    · exact logs_of_silent fun _ => rfl
    · exact logs_note_silent (by simp [LogEvent.IsOrdinary]) fun _ => rfl

section Work

variable {work : Action Session Failure Response}

theorem logs_inSession (first : Option Query) (h : work.LogsOrdinary) :
    (inSession first work).LogsOrdinary := by
  intro server
  unfold inSession
  split
  · exact fun _ he => absurd he List.not_mem_nil
  · exact h _

theorem logs_handle (first : Query) (h : work.LogsOrdinary) : (handle first work).LogsOrdinary :=
  logs_bind logs_openSession fun _ => logs_inSession _ h

end Work

theorem logs_refuse (faults : List Fault) : (refuse faults).LogsOrdinary := by
  unfold refuse
  split
  · exact logs_of_silent fun _ => rfl
  · exact logs_of_silent fun _ => rfl

theorem logs_handleBody {α : Type} (check : Request.Body → Checked α) (first : α → Option Query)
    {work : α → Action Session Failure Response} (h : ∀ a, (work a).LogsOrdinary) :
    (handleBody request check first work).LogsOrdinary := by
  unfold handleBody
  split
  · exact logs_of_silent fun _ => rfl
  · refine logs_bind logs_openSession fun _ => ?_
    split
    · exact logs_refuse _
    · exact logs_inSession _ (h _)

theorem logs_ready : ready.LogsOrdinary := by
  refine logs_silent_bind (fun _ => rfl) fun settings => ?_
  split
  · refine logs_bind logs_openEngine fun _ => ?_
    exact logs_note_silent (by simp [LogEvent.IsOrdinary]) fun _ => rfl
  · exact logs_note_silent (by simp [LogEvent.IsOrdinary]) fun _ => rfl

theorem logs_checkRoutes : checkRoutes.LogsOrdinary :=
  logs_silent_bind (fun _ => rfl) fun _ => logs_of_silent fun _ => rfl

theorem logs_endpoint (e : Endpoint) : (endpoint request e).LogsOrdinary := by
  cases e with
  | ready => exact logs_ready
  | interface => exact logs_bind logs_checkRoutes fun _ => logs_of_silent fun _ => rfl
  | createRule =>
      refine logs_silent_bind (fun _ => rfl) fun settings => ?_
      exact logs_handleBody request _ _ fun body => Handler.logs_createRule _ body
  | listRules => exact logs_handle _ Handler.logs_listRules
  | combineRules => exact logs_handleBody request _ _ Handler.logs_combineRules
  | evaluateDocument => exact logs_handleBody request _ _ Handler.logs_evaluateDocument
  | evaluateRule named =>
      exact logs_handleBody request _ _ fun asked => Handler.logs_evaluateRule asked.1 asked.2
  | listAttributes => exact logs_handle _ Handler.logs_listAttributes
  | createAttribute => exact logs_handleBody request _ _ Handler.logs_createAttribute
  -- what is left only looks at the settings
  | _ => exact logs_of_silent fun _ => rfl

theorem logs_route : (route request).LogsOrdinary := by
  refine logs_silent_bind (fun _ => rfl) fun settings => ?_
  dsimp only
  cases Route.destination (Route.all settings) request.method (Path.ofTarget request.target) with
  | endpoint e =>
      split
      · exact logs_bind logs_checkRoutes fun _ => logs_endpoint request e
      · exact logs_endpoint request e
  | _ =>
      split
      · exact logs_bind logs_checkRoutes fun _ => logs_of_silent fun _ => rfl
      · exact logs_of_silent fun _ => rfl

theorem logs_giveLeave (method : String) : (giveLeave request method).LogsOrdinary := by
  refine logs_silent_bind (fun _ => rfl) fun settings => ?_
  exact logs_silent_bind (fun _ => rfl) fun _ => logs_of_silent fun _ => rfl

theorem logs_dispatch : (dispatch request).LogsOrdinary := by
  unfold dispatch
  split
  · exact logs_giveLeave request _
  · exact logs_route request

end Server

end Eligibility

import Eligibility.Log.Line
import Eligibility.Proofs.Action

/-!
# The context of log lines

A line has the identifier that is bound when its event is written, unless the event brings one of
its own. No event of the program does, and none has a field of a name that logging takes itself
(`LogEvent.IsOrdinary`). So a program that writes such events never fails at it, and each of its
lines has the identifier of its context (`run_writes`, `correlation_of_mem_lines`). The lines of two
programs, one after the other, are those of the first and then those of the second, from the context
that the first one leaves behind (`run_append`).
-/

namespace Eligibility

namespace LogEvent

/-- The names of fields that mean something to logging. -/
def takenNames : List String := "correlation_id" :: FieldClash.methodName :: FieldClash.firstNames

/-- No field of the event has a name that means something to logging. -/
def IsOrdinary (e : LogEvent) : Prop := ∀ field ∈ e.fields, field.1 ∉ takenNames

@[simp]
theorem mem_takenNames {name : String} : name ∈ takenNames ↔
    name = "correlation_id" ∨ name = "method_name" ∨ name = "event" ∨ name = "self" := by
  simp [takenNames, FieldClash.methodName, FieldClash.firstNames]

variable {e : LogEvent}

theorem IsOrdinary.correlation_line (h : e.IsOrdinary) (context : LogContext) :
    (e.line context).correlation = context.getD .generated := by
  have hnone : e.fields.get? "correlation_id" = none := by
    rw [Fields.get?, List.lookup_eq_none_iff]
    intro field hfield
    exact bne_iff_ne.mpr fun heq => h field hfield (heq ▸ List.mem_cons_self)
  simp only [line, hnone]

theorem IsOrdinary.check_eq_ok (h : e.IsOrdinary) (output : LogOutput) :
    output.check e = .ok () := by
  have hfirst : (e.fields.map (·.1)).find? FieldClash.firstNames.contains = none := by
    rw [List.find?_eq_none]
    intro name hname
    obtain ⟨field, hfield, rfl⟩ := List.mem_map.mp hname
    intro htaken
    refine h field hfield (List.mem_cons_of_mem _ (List.mem_cons_of_mem _ ?_))
    simpa using htaken
  have hmethod : (e.fields.map (·.1)).contains FieldClash.methodName = false := by
    rw [Bool.eq_false_iff]
    intro htaken
    obtain ⟨field, hfield, hname⟩ := List.mem_map.mp (List.contains_iff_mem.mp htaken)
    exact h field hfield (hname ▸ List.mem_cons_of_mem _ List.mem_cons_self)
  simp only [LogOutput.check, hfirst, hmethod, Bool.and_false]
  rfl

end LogEvent

namespace LogOutput

variable {output : LogOutput} {context : LogContext} {log : List LogEvent} {steps : List LogStep}

theorem correlation_of_mem_lines (h : ∀ e ∈ log, e.IsOrdinary) {line : LogLine}
    (hline : line ∈ output.lines context log) : line.correlation = context.getD .generated := by
  obtain ⟨e, he, rfl⟩ := List.mem_map.mp hline
  exact (h e (List.mem_filter.mp he).1).correlation_line context

theorem lines_append (output : LogOutput) (context : LogContext) (log log' : List LogEvent) :
    output.lines context (log ++ log') = output.lines context log ++ output.lines context log' := by
  rw [lines, lines, lines, List.filter_append, List.map_append]

/-- The identifier that is bound after some steps. -/
def contextAfter : LogContext → List LogStep → LogContext
  | context, [] => context
  | _, .bind id :: steps => contextAfter (some (.given id)) steps
  | _, .bindGenerated :: steps => contextAfter (some .generated) steps
  | _, .clear :: steps => contextAfter none steps
  | context, .write _ :: steps => contextAfter context steps

theorem contextAfter_append (context : LogContext) (steps steps' : List LogStep) :
    contextAfter context (steps ++ steps') = contextAfter (contextAfter context steps) steps' := by
  induction steps generalizing context with
  | nil => rfl
  | cons step steps ih => cases step <;> exact ih _

theorem contextAfter_writes (context : LogContext) (log : List LogEvent) :
    contextAfter context (log.map .write) = context := by
  induction log with
  | nil => rfl
  | cons e log ih => exact ih

theorem run_write {e : LogEvent} {lines : List LogLine} (he : output.check e = .ok ())
    (h : output.run context steps = .ok lines) :
    output.run context (.write e :: steps) = .ok (output.lines context [e] ++ lines) := by
  rw [run, he, h]
  rfl

theorem exists_of_run_write {e : LogEvent} {lines : List LogLine}
    (h : output.run context (.write e :: steps) = .ok lines) :
    ∃ rest, output.check e = .ok () ∧ output.run context steps = .ok rest ∧
      output.lines context [e] ++ rest = lines := by
  obtain ⟨_, he, h⟩ := exists_of_bind_eq_ok h
  obtain ⟨rest, hrest, h⟩ := exists_of_bind_eq_ok h
  exact ⟨rest, he, hrest, Except.ok.inj h⟩

theorem run_append {steps' : List LogStep} {lines lines' : List LogLine}
    (h : output.run context steps = .ok lines)
    (h' : output.run (contextAfter context steps) steps' = .ok lines') :
    output.run context (steps ++ steps') = .ok (lines ++ lines') := by
  induction steps generalizing context lines with
  | nil =>
      obtain rfl := Except.ok.inj h
      exact h'
  | cons step steps ih =>
      cases step with
      | write e =>
          obtain ⟨rest, he, hrest, rfl⟩ := exists_of_run_write h
          rw [List.append_assoc]
          exact run_write he (ih hrest h')
      | _ => exact ih h h'

/-- Writing ordinary events one after the other gives their lines. -/
theorem run_writes (h : ∀ e ∈ log, e.IsOrdinary) (output : LogOutput) (context : LogContext) :
    output.run context (log.map .write) = .ok (output.lines context log) := by
  induction log with
  | nil => rfl
  | cons e log ih =>
      obtain ⟨he, hlog⟩ := List.forall_mem_cons.mp h
      have hsplit := lines_append output context [e] log
      rw [List.singleton_append] at hsplit
      rw [hsplit]
      exact run_write (he.check_eq_ok output) (ih hlog)

end LogOutput

end Eligibility

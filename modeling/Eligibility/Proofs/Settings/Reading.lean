import Eligibility.Proofs.Action
import Eligibility.Proofs.Document.Checked
import Eligibility.Settings.Reading

/-!
# Settings that were read

Settings are read in steps, and each step can refuse them. What is known of settings that were read
is what the steps have checked (`Settings.exists_of_read_eq_ok`): on an SQLite database there is one
worker at most (`Settings.workers_le_one_of_read`).
-/

namespace Eligibility

namespace Settings

variable {env : Variables} {given : Fields} {s : Settings}

/-- Each setting has been checked on its own, and then the workers together with the database. -/
theorem exists_of_read_eq_ok (h : read env given = .ok s) :
    ∃ raw hints checked, sources env given (Settings.default.toFields.map (·.1)) = .ok raw ∧
      checkFields raw hints = .ok checked ∧ checkWorkers checked = .ok s := by
  obtain ⟨raw, hraw, hread⟩ := exists_of_bind_eq_ok h
  obtain ⟨hints, hread⟩ : ∃ hints, ((checkFields raw hints).andThen checkWorkers).toExcept.mapError
      SettingsError.invalid = .ok s := by
    split at hread
    · exact ⟨_, hread⟩
    · obtain ⟨hints, -, hread⟩ := exists_of_bind_eq_ok hread
      exact ⟨hints, hread⟩
  obtain ⟨checked, hchecked, hworkers⟩ :=
    Checked.exists_of_andThen_eq_ok (Checked.eq_ok_of_toExcept (eq_ok_of_mapError hread))
  exact ⟨raw, hints, checked, hraw, hchecked, hworkers⟩

/-- The check of the workers changes nothing. -/
theorem checkWorkers_eq_ok {checked : Settings} (h : checkWorkers checked = .ok s) :
    checked = s ∧ ¬ (1 < s.workers ∧ s.usesSqlite = true) := by
  unfold checkWorkers at h
  split at h
  · exact nomatch h
  · rename_i hfew
    obtain rfl := Checked.ok.inj h
    exact ⟨rfl, hfew⟩

/-- Settings that were read have no more than one worker on SQLite. -/
theorem workers_le_one_of_read (h : read env given = .ok s) (hsqlite : s.usesSqlite = true) :
    s.workers ≤ 1 := by
  obtain ⟨raw, hints, checked, -, -, hworkers⟩ := exists_of_read_eq_ok h
  obtain ⟨-, hfew⟩ := checkWorkers_eq_ok hworkers
  exact Int.not_lt.mp fun hseveral => hfew ⟨hseveral, hsqlite⟩

end Settings

end Eligibility

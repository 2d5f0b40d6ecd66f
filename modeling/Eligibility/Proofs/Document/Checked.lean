import Eligibility.Document.Checked

/-!
# Values that passed their checks

A value passed a series of checks only if it passed each of them, so what is known of a value is
what its checks have asked for (`exists_of_andThen_eq_ok`, `exists_of_seq_eq_ok`). Two series that
check the fields of an object one by one can be compared field by field (`Leads`).
-/

namespace Eligibility.Checked

variable {α β γ δ : Type} {checked : Checked α}

theorem eq_ok_of_toExcept {a : α} (h : checked.toExcept = .ok a) : checked = .ok a := by
  cases checked with
  | ok a' => exact congrArg Checked.ok (Except.ok.inj h)
  | faulty faults => exact nomatch h

theorem exists_of_andThen_eq_ok {f : α → Checked β} {b : β} (h : checked.andThen f = .ok b) :
    ∃ a, checked = .ok a ∧ f a = .ok b := by
  cases checked with
  | ok a => exact ⟨a, rfl, h⟩
  | faulty faults => exact nomatch h

theorem exists_of_seq_eq_ok {f : Checked (α → β)} {b : β} (h : f <*> checked = .ok b) :
    ∃ g a, f = .ok g ∧ checked = .ok a ∧ g a = b := by
  cases f with
  | faulty faults => cases checked <;> cases h
  | ok g =>
      cases checked with
      | faulty faults => cases h
      | ok a => exact ⟨g, a, rfl, rfl, Checked.ok.inj h⟩

/-! ## Two series of checks -/

/-- If the first check finds no fault, neither does the second, and the values are related. -/
def Leads (R : α → β → Prop) (x : Checked α) (y : Checked β) : Prop :=
  ∀ a, x = .ok a → ∃ b, y = .ok b ∧ R a b

variable {R : β → δ → Prop} {f : Checked (α → β)} {g : Checked (γ → δ)}

/-- A field that both check in the same way. -/
theorem Leads.seq {g : Checked (α → δ)} (h : Leads (fun f g => ∀ a, R (f a) (g a)) f g)
    (x : Checked α) : Leads R (f <*> x) (g <*> x) := by
  intro b hb
  obtain ⟨f', a, hf, rfl, rfl⟩ := exists_of_seq_eq_ok hb
  obtain ⟨g', rfl, hrelated⟩ := h f' hf
  exact ⟨g' a, rfl, hrelated a⟩

/-- A field that has a value of its own in the second check. -/
theorem Leads.seq_ok {c : γ} (h : Leads (fun f g => ∀ a, R (f a) (g c)) f g) (x : Checked α) :
    Leads R (f <*> x) (g <*> .ok c) := by
  intro b hb
  obtain ⟨f', a, hf, rfl, rfl⟩ := exists_of_seq_eq_ok hb
  obtain ⟨g', rfl, hrelated⟩ := h f' hf
  exact ⟨g' c, rfl, hrelated a⟩

end Eligibility.Checked

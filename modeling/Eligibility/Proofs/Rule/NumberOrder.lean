import Eligibility.Proofs.Number.Order
import Eligibility.Rule.Evaluation

/-!
# Numbers compared by rules

A comparison of an attribute with a number, on a record that has a number there, says how the exact
values of the two stand to each other. The order that `<`, `<=`, `>=` and `>` ask for and the
equality that `=` asks for are decided apart from each other, the one on numbers and the other on
values of any kind, and yet they fit together: they are one total order of all integers and doubles
but not-a-number (`numbers_compare_exactly`).
-/

namespace Eligibility

theorem Outcome.ofBool_eq_passed_iff {b : Bool} : ofBool b = .passed ↔ b = true := by
  cases b <;> simp [ofBool]

theorem Outcome.ofBool_eq_failed_iff {b : Bool} : ofBool b = .failed ↔ b = false := by
  cases b <;> simp [ofBool]

namespace Formula

/-- On a record that has its attribute alone, a comparison is tested with the value there. -/
theorem evaluate_single (c : Comparison) (actual : Value) :
    (Formula.atom c).evaluate [(c.name, actual)] = c.test actual := by
  rw [evaluate_atom, Comparison.evaluate, Fields.get?_cons, if_pos rfl]

theorem evaluate_number (name operator : String) (x v : Number) :
    (Formula.atom ⟨name, operator, .number v⟩).evaluate [(name, .number x)] =
      Comparison.test ⟨name, operator, .number v⟩ (.number x) :=
  evaluate_single ⟨name, operator, .number v⟩ (.number x)

/-- **Numbers are compared exactly, and all operators by one order.** Take an attribute with any
number in the record and literals that are any numbers, integers of any size or doubles, with
infinities but without not-a-number. Each operator says how the exact values stand to each other. So
exactly one of `<`, `=` and `>` passes and the other two fail, `>=` and `<=` pass exactly when `=`
or their strict forms do, and what is greater than a literal is greater than every literal up to it.
-/
theorem numbers_compare_exactly (name : String) {x v w : Number} (hx : x ≠ .double .nan)
    (hv : v ≠ .double .nan) (hw : w ≠ .double .nan) :
    let outcome (operator : String) (literal : Number) : Except Number.ConversionError Outcome :=
      (Formula.atom ⟨name, operator, .number literal⟩).evaluate [(name, .number x)]
    ∃ p q r, x.value? = some p ∧ v.value? = some q ∧ w.value? = some r ∧
      (outcome "<" v = .ok (.ofBool (decide (p < q))) ∧
        outcome "=" v = .ok (.ofBool (decide (p = q))) ∧
        outcome ">" v = .ok (.ofBool (decide (q < p))) ∧
        outcome "<=" v = .ok (.ofBool (decide (p ≤ q))) ∧
        outcome ">=" v = .ok (.ofBool (decide (q ≤ p)))) ∧
      (outcome "<" v = .ok .passed ∧ outcome "=" v = .ok .failed ∧ outcome ">" v = .ok .failed ∨
        outcome "<" v = .ok .failed ∧ outcome "=" v = .ok .passed ∧ outcome ">" v = .ok .failed ∨
        outcome "<" v = .ok .failed ∧ outcome "=" v = .ok .failed ∧ outcome ">" v = .ok .passed) ∧
      (outcome ">=" v = .ok .passed ↔ outcome ">" v = .ok .passed ∨ outcome "=" v = .ok .passed) ∧
      (outcome "<=" v = .ok .passed ↔ outcome "<" v = .ok .passed ∨ outcome "=" v = .ok .passed) ∧
      (outcome ">" v = .ok .passed → r ≤ q → outcome ">" w = .ok .passed) := by
  intro outcome
  obtain ⟨p, hp⟩ := Number.exists_value hx
  obtain ⟨q, hq⟩ := Number.exists_value hv
  obtain ⟨r, hr⟩ := Number.exists_value hw
  have hless : outcome "<" v = .ok (.ofBool (decide (p < q))) := by
    rw [← Number.less_eq hp hq]
    exact evaluate_number name "<" x v
  have hequal : outcome "=" v = .ok (.ofBool (decide (p = q))) := by
    rw [← Number.equal_eq hp hq]
    exact evaluate_number name "=" x v
  have hgreater {u : Number} {s : Number.Extended} (hs : u.value? = some s) :
      outcome ">" u = .ok (.ofBool (decide (s < p))) := by
    rw [← Number.less_eq hs hp]
    exact evaluate_number name ">" x u
  have hatMost : outcome "<=" v = .ok (.ofBool (decide (p ≤ q))) := by
    rw [← Number.atMost_eq hp hq]
    exact evaluate_number name "<=" x v
  have hatLeast : outcome ">=" v = .ok (.ofBool (decide (q ≤ p))) := by
    rw [← Number.atMost_eq hq hp]
    exact evaluate_number name ">=" x v
  refine ⟨p, q, r, hp, hq, hr, ⟨hless, hequal, hgreater hq, hatMost, hatLeast⟩, ?_, ?_, ?_, ?_⟩
  · simp only [hless, hequal, hgreater hq, Except.ok.injEq, Outcome.ofBool_eq_passed_iff,
      Outcome.ofBool_eq_failed_iff, decide_eq_true_eq, decide_eq_false_iff_not]
    rcases lt_trichotomy p q with h | h | h
    · exact .inl ⟨h, h.ne, h.not_gt⟩
    · exact .inr (.inl ⟨h.not_lt, h, h.not_gt⟩)
    · exact .inr (.inr ⟨h.not_gt, h.ne', h⟩)
  · simp only [hatLeast, hgreater hq, hequal, Except.ok.injEq, Outcome.ofBool_eq_passed_iff,
      decide_eq_true_eq]
    exact le_iff_lt_or_eq.trans (or_congr_right eq_comm)
  · simp only [hatMost, hless, hequal, Except.ok.injEq, Outcome.ofBool_eq_passed_iff,
      decide_eq_true_eq]
    exact le_iff_lt_or_eq
  · simp only [hgreater hq, hgreater hr, Except.ok.injEq, Outcome.ofBool_eq_passed_iff,
      decide_eq_true_eq]
    intro hlt hle
    exact hle.trans_lt hlt

/-- The integer above `2 ^ 53` is no double, and the double below it is the nearest one. The two are
told apart, and so are the integer and the one below it. -/
theorem numbers_compare_exactly_of_large :
    let x : Number := .int 9007199254740993
    let v : Number := .double (.finite false ⟨1076 * 2 ^ 52, by decide⟩)
    let w : Number := .int 9007199254740992
    let outcome (operator : String) (literal : Number) : Except Number.ConversionError Outcome :=
      (Formula.atom ⟨"a", operator, .number literal⟩).evaluate [("a", .number x)]
    v.value? = w.value? ∧ outcome ">" v = .ok .passed ∧ outcome "=" v = .ok .failed ∧
      outcome ">=" v = .ok .passed ∧ outcome ">" w = .ok .passed := by
  intro x v w outcome
  have hvalue : v.value? = w.value? := by
    have hplace : v.place? = w.place? := by decide +kernel
    rw [Number.value?_eq, Number.value?_eq, hplace]
  have hgreater : outcome ">" v = .ok .passed := by
    have hless : v.less x = true := by decide +kernel
    have htest : outcome ">" v = .ok (.ofBool (v.less x)) := evaluate_number "a" ">" x v
    rw [htest, hless]
    rfl
  obtain ⟨p, q, r, -, hq, hr, -, hone, hatLeast, -, hbelow⟩ :=
    numbers_compare_exactly "a" (x := x) (v := v) (w := w) (by decide) (by decide) (by decide)
  have hle : r ≤ q := (Option.some.inj (hr.symm.trans (hvalue.symm.trans hq))).le
  refine ⟨hvalue, hgreater, ?_, hatLeast.mpr (.inl hgreater), hbelow hgreater hle⟩
  rcases hone with ⟨-, -, h⟩ | ⟨-, -, h⟩ | ⟨-, h, -⟩
  · exact absurd (h.symm.trans hgreater) (by simp)
  · exact absurd (h.symm.trans hgreater) (by simp)
  · exact h

end Formula

end Eligibility

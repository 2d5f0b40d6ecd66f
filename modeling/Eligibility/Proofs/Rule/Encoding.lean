import Eligibility.Rule.Encoding

/-!
# Reading encoded formulas back

The document of a formula decodes to the formula (`ofValue?_toValue`). Each layer of the document is
read for what it was written as, so this is an induction on the formula.
-/

namespace Eligibility.Formula

theorem decode_of_comparison {v : Value} {c : Comparison} (h : layer? v = .ok (.comparison c)) :
    decode v = .ok (.atom c) := by
  rw [decode]
  split <;> simp_all

/-- A join is decoded side by side, its connective last. -/
theorem decode_join {v operator left right : Value}
    (h : layer? v = .ok (.join operator left right)) :
    decode v = decode left >>= fun l => decode right >>= fun r => joinBy? operator l r := by
  rw [decode]
  split
  · simp_all
  · simp_all
  · rename_i operator' left' right' h'
    obtain ⟨rfl, rfl, rfl⟩ : operator = operator' ∧ left = left' ∧ right = right' := by
      simpa [h] using h'
    cases decode left with
    | error e => rfl
    | ok l => cases decode right <;> rfl

theorem decode_of_join {v operator left right : Value} {l r : Formula}
    (h : layer? v = .ok (.join operator left right)) (hl : decode left = .ok l)
    (hr : decode right = .ok r) : decode v = joinBy? operator l r := by
  rw [decode_join h, hl, hr]
  rfl

/-- A document whose outermost layer is faulty has the fault of the layer. -/
theorem decode_of_error {v : Value} {e : InvalidFormula} (h : layer? v = .error e) :
    decode v = .error e := by
  rw [decode]
  split <;> simp_all

theorem layer?_comparisonValue (c : Comparison) :
    layer? (comparisonValue c) = .ok (.comparison c) := by
  obtain ⟨name, operator, value⟩ := c
  cases value <;> rfl

theorem layer?_joinValue (op : Connective) (left right : Value) :
    layer? (joinValue op left right) = .ok (.join (.text op.keyword) left right) := rfl

theorem joinBy?_keyword (op : Connective) (left right : Formula) :
    joinBy? (.text op.keyword) left right = .ok (.join op left right) := by
  simp [joinBy?, Connective.ofValue?, Connective.ofKeyword?_keyword]

/-- A formula is read back from its document. -/
theorem ofValue?_toValue (f : Formula) : ofValue? f.toValue = .ok f := by
  rw [ofValue?_eq_decode]
  unfold toValue
  induction f with
  | atom c =>
      rw [fold_atom]
      exact decode_of_comparison (layer?_comparisonValue c)
  | join op left right ihl ihr =>
      rw [fold_join, decode_of_join (layer?_joinValue op _ _) ihl ihr, joinBy?_keyword]

end Eligibility.Formula

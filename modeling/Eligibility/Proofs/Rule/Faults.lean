import Eligibility.Proofs.Rule.Documents

/-!
# The first fault of a document

Decoding goes through a document with a list of work: objects are checked on the way down and
connectives on the way up. So it is not obvious which of several faults is the one that is told.

* `Value.formula?` is the plain recursion, with one check after the other: the object, its type,
  then the parts of a comparison, or both sides and after them the connective of a join.
  `Value.formula?_eq_decode` says that decoding comes to the same, fault or formula.
* `Value.faults` lists the faults of all checks in this order and stops at none. The fault that is
  told is the first one (`Value.formula?_eq_error_iff`).
-/

namespace Eligibility

namespace Value

/-! ## The checks of one object -/

/-- The comparison of an object's fields: the attribute and the operator, then the literal. -/
def operand? (fields : Fields) : Except InvalidFormula Formula :=
  match fields.get "attribute", fields.get "operator" with
  | .text name, .text operator =>
      match fields.get "value" with
      | .text s => .ok (.atom ⟨name, operator, .text s⟩)
      | .number n => .ok (.atom ⟨name, operator, .number n⟩)
      | v => .error (.unsupportedLiteral v)
  | _, _ => .error .incompleteComparison

/-- The connective that a value names. -/
def connective? : Value → Except InvalidFormula Connective
  | .text "AND" => .ok .and
  | .text "OR" => .ok .or
  | v => .error (.unknownConnective v)

/-- The faults of an attribute and an operator that are not both texts. -/
def labelFaults : Value → Value → List InvalidFormula
  | .text _, .text _ => []
  | _, _ => [.incompleteComparison]

/-- The faults of a literal: only texts and numbers are some. -/
def literalFaults : Value → List InvalidFormula
  | .text _ => []
  | .number _ => []
  | v => [.unsupportedLiteral v]

/-- The faults of a connective. -/
def connectiveFaults : Value → List InvalidFormula
  | .text "AND" => []
  | .text "OR" => []
  | v => [.unknownConnective v]

theorem operand?_eq_error_iff {fields : Fields} {e : InvalidFormula} :
    operand? fields = .error e ↔
      (labelFaults (fields.get "attribute") (fields.get "operator") ++
        literalFaults (fields.get "value")).head? = some e := by
  unfold operand? labelFaults literalFaults
  split
  · split <;> simp_all
  · simp_all

theorem connective?_eq_error_iff {v : Value} {e : InvalidFormula} :
    connective? v = .error e ↔ (connectiveFaults v).head? = some e := by
  unfold connective? connectiveFaults
  split <;> simp_all

/-! ## Whole documents -/

/-- The formula of a document by recursion, with one check after the other. -/
def formula? : Value → Except InvalidFormula Formula
  | .object fields =>
      match Fields.get fields "type" with
      | .text "operand" => operand? fields
      | .text "operator" =>
          match _hleft : Fields.get? fields "left", _hright : Fields.get? fields "right" with
          | some left, some right => do
              let l ← formula? left
              let r ← formula? right
              let op ← connective? (Fields.get fields "operator")
              return .join op l r
          | _, _ => .error .missingSide
      | type => .error (.unknownType type)
  | v => .error (.notAnObject v.kindName)
termination_by v => sizeOf v
decreasing_by
  · have := Formula.sizeOf_lt_of_get? _hleft
    simp; omega
  · have := Formula.sizeOf_lt_of_get? _hright
    simp; omega

/-- The faults of a document in the order of the checks: those of the left side, those of the right
side, and then that of the connective. -/
def faults : Value → List InvalidFormula
  | .object fields =>
      match Fields.get fields "type" with
      | .text "operand" =>
          labelFaults (Fields.get fields "attribute") (Fields.get fields "operator") ++
            literalFaults (Fields.get fields "value")
      | .text "operator" =>
          match _hleft : Fields.get? fields "left", _hright : Fields.get? fields "right" with
          | some left, some right =>
              faults left ++ faults right ++ connectiveFaults (Fields.get fields "operator")
          | _, _ => [.missingSide]
      | type => [.unknownType type]
  | v => [.notAnObject v.kindName]
termination_by v => sizeOf v
decreasing_by
  · have := Formula.sizeOf_lt_of_get? _hleft
    simp; omega
  · have := Formula.sizeOf_lt_of_get? _hright
    simp; omega

/-! ## Decoding is the recursion -/

/-- The checks of a comparison are those of decoding. -/
theorem operand?_eq (fields : Fields) :
    operand? fields = (Formula.comparison? fields).map .atom := by
  unfold operand? Formula.comparison?
  cases fields.get "attribute" with
  | text name =>
      cases fields.get "operator" with
      | text operator => cases fields.get "value" <;> rfl
      | _ => rfl
  | _ => rfl

/-- A join is made when its connective passes the check, whatever its sides are. -/
theorem joinBy?_eq (operator : Value) (l r : Formula) :
    Formula.joinBy? operator l r = (connective? operator).map fun op => .join op l r := by
  unfold connective?
  split
  · rfl
  · rfl
  · rename_i hand hor
    have hnone : Connective.ofValue? operator = none := by
      unfold Connective.ofValue? Connective.ofKeyword?
      split
      · simp_all
      · rfl
    rw [Formula.joinBy?, hnone]
    rfl

/-- Decoding is the plain recursion: no check is left out, and none comes before its turn. -/
theorem formula?_eq_decode (v : Value) : v.formula? = Formula.decode v := by
  fun_induction formula? v with
  | case1 fields htype =>
      have hlayer : Formula.layer? (.object fields) =
          (Formula.comparison? fields).map .comparison := by
        simp only [Formula.layer?, htype]
      rw [operand?_eq]
      cases hcomparison : Formula.comparison? fields with
      | error e =>
          rw [hcomparison] at hlayer
          exact (Formula.decode_of_error hlayer).symm
      | ok c =>
          rw [hcomparison] at hlayer
          exact (Formula.decode_of_comparison hlayer).symm
  | case2 fields htype left right hleft hright ihl ihr =>
      have hlayer : Formula.layer? (.object fields) =
          .ok (.join (Fields.get fields "operator") left right) := by
        simp only [Formula.layer?, htype, Formula.parts?, hleft, hright]
      rw [Formula.decode_join hlayer, ihl, ihr]
      simp only [joinBy?_eq]
      rfl
  | case3 fields htype hsides =>
      exact (Formula.decode_of_error (by simp only [Formula.layer?, htype, Formula.parts?])).symm
  | case4 fields hoperand hoperator =>
      exact (Formula.decode_of_error (by simp only [Formula.layer?])).symm
  | case5 v hobject =>
      exact (Formula.decode_of_error (by simp only [Formula.layer?])).symm

/-! ## The first fault -/

/-- Of computations one after the other, the first error is told: if errors are the first ones of
lists, the error of both is the first one of both lists. -/
theorem bind_eq_error_iff {α β : Type} {x : Except InvalidFormula α}
    {f : α → Except InvalidFormula β} {first more : List InvalidFormula}
    (hx : ∀ e, x = .error e ↔ first.head? = some e)
    (hf : ∀ a e, f a = .error e ↔ more.head? = some e) (e : InvalidFormula) :
    (x >>= f) = .error e ↔ (first ++ more).head? = some e := by
  cases x with
  | error e' =>
      have hhead := (hx e').mp rfl
      rw [List.head?_append, hhead]
      simp [bind, Except.bind]
  | ok a =>
      have hfirst : first = [] := by
        rw [← List.head?_eq_none_iff, Option.eq_none_iff_forall_ne_some]
        intro e' hhead
        exact absurd ((hx e').mpr hhead) (by simp)
      rw [hfirst, List.nil_append, ← hf a e]
      rfl

/-- The error of the recursion is the first fault. -/
theorem formula?_eq_error_iff (v : Value) (e : InvalidFormula) :
    v.formula? = .error e ↔ v.faults.head? = some e := by
  fun_induction formula? v generalizing e with
  | case1 fields htype =>
      rw [faults, htype]
      exact operand?_eq_error_iff
  | case2 fields htype left right hleft hright ihl ihr =>
      have hfaults : faults (.object fields) =
          faults left ++ (faults right ++ connectiveFaults (Fields.get fields "operator")) := by
        rw [faults, htype]
        simp only
        split
        · simp_all
        · simp_all
      rw [hfaults]
      refine bind_eq_error_iff ihl (fun l => ?_) e
      refine bind_eq_error_iff ihr (fun r e => ?_)
      rw [← connective?_eq_error_iff]
      cases connective? (Fields.get fields "operator") with
      | error e' => simp [bind, Except.bind]
      | ok op => simp [bind, Except.bind, pure, Except.pure]
  | case3 fields htype hsides =>
      rw [faults, htype]
      simp
  | case4 fields hoperand hoperator =>
      rw [faults]
      split <;> simp_all
  | case5 v hobject =>
      rw [faults]
      · simp
      · exact hobject

end Value

/-- **Decoding tells the first fault.** For every document, the work on it ends, and no task lacks
the formulas that it needs. What it ends with is the outcome of the plain recursion: its formula, or
its error, which is the first one of all faults of the document in the order of the checks. -/
theorem Formula.decodeRun_eq_formula? (v : Value) :
    decodeRun [.visit v] [] = some (v.formula?.map fun f => [f]) ∧
      ofValue? v = v.formula? ∧
      ∀ e, ofValue? v = .error e ↔ v.faults.head? = some e := by
  have hvalue : ofValue? v = v.formula? := by
    rw [ofValue?_eq_decode, Value.formula?_eq_decode]
  refine ⟨?_, hvalue, fun e => ?_⟩
  · rw [decodeRun_single, Value.formula?_eq_decode]
  · rw [hvalue]
    exact Value.formula?_eq_error_iff v e

end Eligibility

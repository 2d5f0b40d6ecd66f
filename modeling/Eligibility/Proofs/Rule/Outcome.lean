import Eligibility.Proofs.Number.Conversion
import Eligibility.Rule.Combination
import Eligibility.Rule.Evaluation

/-!
# What decides an outcome

A formula is evaluated side by side, and an error goes up through every join on its way. Seen from
the outside, the outcome depends on the list of its comparisons only:

* `evaluate_eq_firstError_or_holds` — the first comparison that runs into an error, from left to
  right, decides; if none does, the formula is read as a statement about which of them passed;
* `evaluate_joinAll` — the same rule one level up, for formulas that are combined under one
  connective: the first error among their outcomes, or else whether all of them (some of them)
  passed.

Both rest on `join_settle`: settling the outcomes of two lists and joining the results is settling
the outcomes of both lists at once. Where a comparison has no outcome there is none to settle
either, and the first of the comparisons without one says why (`joinResults_map_settle`).
-/

namespace Eligibility

section Lists

variable {ε α β : Type} {f : α → Except ε β} {xs : List α}

/-- What comes of a list is what comes of its members one by one. -/
theorem map_eq_of_mapM_eq_ok {ys : List β} (h : xs.mapM f = .ok ys) : xs.map f = ys.map .ok := by
  induction xs generalizing ys with
  | nil =>
      obtain rfl : [] = ys := Except.ok.inj h
      rfl
  | cons x xs ih =>
      rw [List.mapM_cons] at h
      cases hx : f x with
      | error e =>
          rw [hx] at h
          cases h
      | ok y =>
          cases hxs : xs.mapM f with
          | error e =>
              rw [hx, hxs] at h
              cases h
          | ok zs =>
              rw [hx, hxs] at h
              obtain rfl : y :: zs = ys := Except.ok.inj h
              rw [List.map_cons, List.map_cons, hx, ih hxs]

theorem exists_mapM_eq_ok (h : ∀ x ∈ xs, ∃ y, f x = .ok y) : ∃ ys, xs.mapM f = .ok ys := by
  induction xs with
  | nil => exact ⟨[], rfl⟩
  | cons x xs ih =>
      obtain ⟨y, hy⟩ := h x List.mem_cons_self
      obtain ⟨ys, hys⟩ := ih fun x hx => h x (List.mem_cons_of_mem _ hx)
      refine ⟨y :: ys, ?_⟩
      rw [List.mapM_cons, hy, hys]
      rfl

end Lists

/-- The connective as an operation on truth values. -/
def Connective.apply : Connective → Bool → Bool → Bool
  | .and, a, b => a && b
  | .or, a, b => a || b

namespace Outcome

/-- The error that the outcome is, if it is one. -/
def error? : Outcome → Option EvaluationError
  | .error e => some e
  | _ => none

/-- The first error among outcomes. If there is none, passed or failed as a truth value says. -/
def settle (outcomes : List Outcome) (holds : Bool) : Outcome :=
  match outcomes.findSome? error? with
  | some e => .error e
  | none => .ofBool holds

theorem settle_singleton (outcome : Outcome) : settle [outcome] outcome.isPassed = outcome := by
  cases outcome <;> rfl

/-- No error of either side is lost in a join, and one of the left side comes first. -/
theorem join_settle (op : Connective) (left right : List Outcome) (a b : Bool) :
    (settle left a).join op (settle right b) = settle (left ++ right) (op.apply a b) := by
  unfold settle
  rw [List.findSome?_append]
  cases left.findSome? error? with
  | some e => rfl
  | none =>
      cases right.findSome? error? with
      | some e => cases a <;> rfl
      | none => cases op <;> cases a <;> cases b <;> rfl

/-- The outcome of several under one connective: the first error, or else whether all of them, or
some of them, passed. -/
def overall (op : Connective) (outcomes : List Outcome) : Outcome :=
  settle outcomes <|
    match op with
    | .and => outcomes.all isPassed
    | .or => outcomes.any isPassed

theorem overall_singleton (op : Connective) (outcome : Outcome) :
    overall op [outcome] = outcome := by
  cases op <;> cases outcome <;> rfl

theorem overall_concat (op : Connective) (outcomes : List Outcome) (last : Outcome) :
    overall op (outcomes ++ [last]) = (overall op outcomes).join op last := by
  conv => rhs; rw [← settle_singleton last]
  unfold overall
  rw [join_settle]
  cases op <;> simp [Connective.apply]

/-! ## Where there may be no outcome -/

/-- An evaluation came to an outcome, and the outcome is passed. -/
def passes : Except Number.ConversionError Outcome → Bool
  | .ok outcome => outcome.isPassed
  | .error _ => false

section Results

variable {α : Type} (result : α → Except Number.ConversionError Outcome)

theorem map_settle_singleton (x : α) :
    ([x].mapM result).map (settle · (passes (result x))) = result x := by
  rw [List.mapM_cons]
  cases result x with
  | error e => rfl
  | ok outcome => exact congrArg Except.ok (settle_singleton outcome)

/-- The first evaluation without an outcome ends both lists, on whichever side it stands. -/
theorem joinResults_map_settle (op : Connective) (left right : List α) (a b : Bool) :
    joinResults op ((left.mapM result).map (settle · a)) ((right.mapM result).map (settle · b)) =
      ((left ++ right).mapM result).map (settle · (op.apply a b)) := by
  rw [List.mapM_append]
  cases left.mapM result with
  | error e => rfl
  | ok outcomes =>
      cases right.mapM result with
      | error e => rfl
      | ok outcomes' => exact congrArg Except.ok (join_settle op outcomes outcomes' a b)

/-- Where a join has an outcome, it is that of the outcomes of its sides. -/
theorem exists_of_joinResults_eq_ok {op : Connective} {outcome : Outcome}
    {left right : Except Number.ConversionError Outcome}
    (h : joinResults op left right = .ok outcome) :
    ∃ a b, left = .ok a ∧ right = .ok b ∧ outcome = a.join op b := by
  cases left with
  | error e => cases h
  | ok a =>
      cases right with
      | error e => cases h
      | ok b => exact ⟨a, b, rfl, rfl, (Except.ok.inj h).symm⟩

theorem map_overall_singleton (op : Connective) (x : α) :
    ([x].mapM result).map (overall op) = result x := by
  rw [List.mapM_cons]
  cases result x with
  | error e => rfl
  | ok outcome => exact congrArg Except.ok (overall_singleton op outcome)

theorem map_overall_concat (op : Connective) (front : List α) (last : α) :
    ((front ++ [last]).mapM result).map (overall op) =
      joinResults op ((front.mapM result).map (overall op)) (result last) := by
  rw [List.mapM_append, List.mapM_cons]
  cases front.mapM result with
  | error e => rfl
  | ok outcomes =>
      cases result last with
      | error e => rfl
      | ok outcome => exact congrArg Except.ok (overall_concat op outcomes outcome)

/-- Joining results one after the other is taking them all at once. -/
theorem foldl_joinResults (op : Connective) (front rest : List α) :
    (rest.map result).foldl (joinResults op) ((front.mapM result).map (overall op)) =
      ((front ++ rest).mapM result).map (overall op) := by
  -- `front` is what the fold has gone through, and its overall outcome is what the fold holds
  induction rest generalizing front with
  | nil => rw [List.map_nil, List.foldl_nil, List.append_nil]
  | cons x rest ih =>
      rw [List.map_cons, List.foldl_cons, ← map_overall_concat, ih, ← List.append_cons]

end Results

end Outcome

namespace Formula

/-- The formula as a statement about which comparisons pass. -/
def holds (passes : Comparison → Bool) : Formula → Bool
  | .atom c => passes c
  | .join op left right => op.apply (left.holds passes) (right.holds passes)

/-- The outcome of a formula settles the outcomes of its comparisons, if all of them have one. -/
theorem evaluate_eq_settle (record : Record) (f : Formula) :
    f.evaluate record = (f.comparisons.mapM (Comparison.evaluate record)).map
      (Outcome.settle · (f.holds fun c => Outcome.passes (c.evaluate record))) := by
  induction f with
  | atom c =>
      rw [evaluate_atom, comparisons_atom]
      exact (Outcome.map_settle_singleton (Comparison.evaluate record) c).symm
  | join op left right ihl ihr =>
      -- each side is settled by its own comparisons; together they are settled by all of them
      rw [evaluate_join, ihl, ihr, Outcome.joinResults_map_settle, comparisons_join]
      rfl

/-- **The leftmost error decides, and without one the formula is read as it stands.** A formula has
an outcome if each of its comparisons has one by itself; otherwise the first one without says why
not. If some comparison runs into an error by itself, the outcome is the error of the first one that
does, wherever it stands and whatever the others come to. Otherwise the record passes when the
formula holds of the comparisons that pass, and fails when it does not. -/
theorem evaluate_eq_firstError_or_holds (record : Record) (f : Formula) :
    f.evaluate record =
      (f.comparisons.mapM fun c => (Formula.atom c).evaluate record).map fun outcomes =>
        match outcomes.findSome? Outcome.error? with
        | some e => .error e
        | none =>
            if f.holds fun c => Outcome.passes ((Formula.atom c).evaluate record) then .passed
            else .failed := by
  simp only [evaluate_atom]
  exact evaluate_eq_settle record f

/-- What keeps a numeric text from being read ends its comparison with a number. -/
theorem evaluate_of_read_error {s : String} {e : Number.ConversionError}
    (hnumeric : Number.isNumericText s = true) (hread : Number.read s = .error e) (name : String)
    (n : Number) :
    (Formula.atom ⟨name, "=", .number n⟩).evaluate [(name, .text s)] = .error e := by
  rw [evaluate_atom, Comparison.evaluate, Fields.get?_cons, if_pos rfl]
  show (Value.readsAs s n).map Outcome.ofBool = _
  rw [Value.readsAs, if_pos hnumeric, hread]
  rfl

/-- A text of too many digits beside a number leaves the formula without an outcome. -/
theorem noOutcome_of_long_text :
    let record : Record := [("a", .text (String.ofList (List.replicate 4301 '1')))]
    (Formula.atom ⟨"a", "=", .number (.int 1)⟩).evaluate record = .error (.tooManyDigits 4301) :=
  evaluate_of_read_error (Number.Numeral.isNumericText_ones (by decide))
    (Number.Numeral.read_ones (by decide)) "a" (.int 1)

/-- The outcome of a combination is that of its formulas under the connective. -/
theorem evaluate_joinAll (record : Record) (op : Connective) (first : Formula)
    (rest : List Formula) :
    (joinAll op first rest).evaluate record =
      ((first :: rest).mapM (evaluate record)).map (Outcome.overall op) := by
  have hfold : (joinAll op first rest).evaluate record =
      (rest.map (evaluate record)).foldl (Outcome.joinResults op) (first.evaluate record) := by
    unfold joinAll
    induction rest generalizing first with
    | nil => rfl
    | cons next rest ih => rw [List.foldl_cons, ih, evaluate_join, List.map_cons, List.foldl_cons]
  rw [hfold, ← Outcome.map_overall_singleton (evaluate record) op first, Outcome.foldl_joinResults]
  rfl

end Formula

end Eligibility

import Eligibility.Proofs.Rule.Outcome

/-!
# One formula, two records

What two records have to share for a formula to treat them alike, and when one of them does at least
as well as the other.

* `evaluate_of_agree` — the outcome depends on the attributes that the formula mentions and on
  nothing else in the record;
* `passed_of_comparisons` — a formula has no negation: if each of its comparisons that passes one
  record passes the other one too, then so does the formula.
-/

namespace Eligibility

namespace Fields

/-- A field that is written has its new value, and all others are left alone. -/
theorem get?_put (fields : Fields) (key name : String) (v : Value) :
    (fields.put key v).get? name = if name = key then some v else fields.get? name := by
  induction fields with
  | nil => rw [put, get?_cons]
  | cons field fields ih =>
      obtain ⟨k, w⟩ := field
      rw [put]
      split
      · rename_i hkey
        rw [get?_cons, get?_cons, hkey]
        split <;> rfl
      · rename_i hkey
        rw [get?_cons, get?_cons, ih]
        split
        · rename_i hname
          rw [if_neg (hname ▸ hkey)]
        · rfl

/-- A field that is removed is gone, and all others are left alone. -/
theorem get?_filter (fields : Fields) (key name : String) :
    get? (fields.filter fun field => field.1 != key) name =
      if name = key then none else fields.get? name := by
  induction fields with
  | nil => simp [get?]
  | cons field fields ih =>
      obtain ⟨k, w⟩ := field
      rw [List.filter_cons, get?_cons]
      by_cases hkey : k = key
      · subst hkey
        rw [if_neg (by simp), ih]
        split <;> rfl
      · rw [if_pos (by simpa using hkey), get?_cons, ih]
        split
        · rename_i hname
          rw [if_neg (hname ▸ hkey)]
        · rfl

end Fields

/-- A comparison looks at the attribute of its name alone. -/
theorem Comparison.evaluate_congr {c : Comparison} {record record' : Record}
    (h : record.get? c.name = record'.get? c.name) : c.evaluate record = c.evaluate record' := by
  rw [evaluate, evaluate, h]

theorem Outcome.passes_iff {result : Except Number.ConversionError Outcome} :
    passes result = true ↔ result = .ok .passed := by
  cases result with
  | error e => simp [passes]
  | ok outcome => cases outcome <;> simp [passes, isPassed]

/-- Passed means that nothing ran into an error and that the statement holds. -/
theorem Outcome.settle_eq_passed_iff {outcomes : List Outcome} {holds : Bool} :
    settle outcomes holds = .passed ↔
      (∀ outcome ∈ outcomes, outcome.error? = none) ∧ holds = true := by
  rw [settle, ← List.findSome?_eq_none_iff]
  cases outcomes.findSome? error? with
  | some e => simp
  | none => cases holds <;> simp [ofBool]

namespace Formula

@[simp] theorem attributes_atom (c : Comparison) : attributes (.atom c) = [c.name] := by
  simp [attributes]

@[simp] theorem attributes_join (op : Connective) (left right : Formula) :
    attributes (.join op left right) = left.attributes ++ right.attributes := by
  simp [attributes]

/-! ## Records that agree -/

theorem evaluate_eq_of_attributes {record record' : Record} (f : Formula)
    (h : ∀ name ∈ f.attributes, record.get? name = record'.get? name) :
    f.evaluate record = f.evaluate record' := by
  induction f with
  | atom c =>
      rw [evaluate_atom, evaluate_atom]
      exact Comparison.evaluate_congr (h c.name (by simp))
  | join op left right ihl ihr =>
      rw [attributes_join] at h
      rw [evaluate_join, evaluate_join, ihl fun name hname => h name (List.mem_append_left _ hname),
        ihr fun name hname => h name (List.mem_append_right _ hname)]

/-- **An outcome depends on the attributes that are mentioned, and on nothing else.** Two records
that have the same value, or none, under each name that occurs in a formula have the same outcome,
and the same reason if it is an error. So a field of any other name can be written, whether it is
new or not, or removed. -/
theorem evaluate_of_agree (f : Formula) (record : Record) :
    (∀ record' : Record, (∀ name ∈ f.attributes, record'.get? name = record.get? name) →
      f.evaluate record' = f.evaluate record) ∧
    ∀ key ∉ f.attributes,
      (∀ v, f.evaluate (record.put key v) = f.evaluate record) ∧
        f.evaluate (record.filter fun field => field.1 != key) = f.evaluate record := by
  refine ⟨fun record' h => evaluate_eq_of_attributes f h, ?_⟩
  intro key hkey
  have hne : ∀ name ∈ f.attributes, name ≠ key := fun name hname heq => hkey (heq ▸ hname)
  constructor
  · intro v
    refine evaluate_eq_of_attributes f fun name hname => ?_
    rw [Fields.get?_put, if_neg (hne name hname)]
  · refine evaluate_eq_of_attributes f fun name hname => ?_
    rw [Fields.get?_filter, if_neg (hne name hname)]

/-- The fields stand in another order, one that is not mentioned has another value, and one more is
there. The error and its reason are the same. -/
theorem evaluate_of_agree_of_reordered :
    let f : Formula := .join .or (.atom ⟨"city", "=", .text "Paris"⟩)
      (.atom ⟨"age", ">", .number (.int 30)⟩)
    let record : Record := [("age", .text "old"), ("id", .ofInt 1), ("city", .text "Paris")]
    let record' : Record := [("city", .text "Paris"), ("id", .ofInt 2), ("age", .text "old"),
      ("member", .bool true)]
    (∀ name ∈ f.attributes, record'.get? name = record.get? name) ∧
      f.evaluate record' = .ok (.error (.requiresNumbers ">")) ∧ "salary" ∉ f.attributes ∧
      f.evaluate (record.put "salary" .null) = .ok (.error (.requiresNumbers ">")) := by
  intro f record record'
  have hattributes : f.attributes = ["city", "age"] := by simp [f]
  have hagree : ∀ name ∈ f.attributes, record'.get? name = record.get? name := by
    rw [hattributes]
    simp [record, record', Fields.get?_cons]
  have hsalary : "salary" ∉ f.attributes := by
    rw [hattributes]
    decide
  have houtcome : f.evaluate record = .ok (.error (.requiresNumbers ">")) := by
    rw [evaluate_join, evaluate_atom, evaluate_atom]
    rfl
  obtain ⟨hsame, hother⟩ := evaluate_of_agree f record
  exact ⟨hagree, (hsame record' hagree).trans houtcome, hsalary,
    ((hother "salary" hsalary).1 .null).trans houtcome⟩

/-! ## Records that are as good -/

/-- A statement without negation goes on to hold if every comparison that passes goes on to pass. -/
theorem holds_mono {passes passes' : Comparison → Bool} (f : Formula)
    (h : ∀ c ∈ f.comparisons, passes c = true → passes' c = true)
    (hholds : f.holds passes = true) : f.holds passes' = true := by
  induction f with
  | atom c => exact h c (by simp) hholds
  | join op left right ihl ihr =>
      rw [comparisons_join] at h
      have hleft := ihl fun c hc => h c (List.mem_append_left _ hc)
      have hright := ihr fun c hc => h c (List.mem_append_right _ hc)
      cases op with
      | and =>
          obtain ⟨hl, hr⟩ := Bool.and_eq_true_iff.mp hholds
          exact Bool.and_eq_true_iff.mpr ⟨hleft hl, hright hr⟩
      | or =>
          rcases Bool.or_eq_true_iff.mp hholds with hl | hr
          · exact Bool.or_eq_true_iff.mpr (.inl (hleft hl))
          · exact Bool.or_eq_true_iff.mpr (.inr (hright hr))

/-- A record passes if no comparison runs into an error and the formula holds of those that pass. -/
theorem evaluate_eq_passed_iff {record : Record} {f : Formula} :
    f.evaluate record = .ok .passed ↔
      (∀ c ∈ f.comparisons, ∃ outcome, c.evaluate record = .ok outcome ∧ outcome.error? = none) ∧
        (f.holds fun c => Outcome.passes (c.evaluate record)) = true := by
  rw [evaluate_eq_settle]
  constructor
  · intro h
    cases hresults : f.comparisons.mapM (Comparison.evaluate record) with
    | error e =>
        rw [hresults] at h
        cases h
    | ok outcomes =>
        rw [hresults] at h
        obtain ⟨herrors, hholds⟩ := Outcome.settle_eq_passed_iff.mp (Except.ok.inj h)
        refine ⟨fun c hc => ?_, hholds⟩
        have hmem := List.mem_map_of_mem (f := Comparison.evaluate record) hc
        rw [map_eq_of_mapM_eq_ok hresults] at hmem
        obtain ⟨outcome, houtcome, heq⟩ := List.mem_map.mp hmem
        exact ⟨outcome, heq.symm, herrors outcome houtcome⟩
  · rintro ⟨herrors, hholds⟩
    obtain ⟨outcomes, hresults⟩ := exists_mapM_eq_ok fun c hc => (herrors c hc).imp fun _ h => h.1
    rw [hresults]
    refine congrArg Except.ok (Outcome.settle_eq_passed_iff.mpr ⟨?_, hholds⟩)
    intro outcome houtcome
    have hmem := List.mem_map_of_mem (f := Except.ok (ε := Number.ConversionError)) houtcome
    rw [← map_eq_of_mapM_eq_ok hresults] at hmem
    obtain ⟨c, hc, heq⟩ := List.mem_map.mp hmem
    obtain ⟨outcome', heq', hnone⟩ := herrors c hc
    rwa [Except.ok.inj (heq.symm.trans heq')]

/-- **A formula is monotone in its comparisons.** If every comparison of a formula that passes one
record passes another one too, and each of them has an outcome on the other one that is no error,
then the other one passes the formula if the first one does. Of the first one nothing more is asked:
a record on which a comparison runs into an error does not pass. -/
theorem passed_of_comparisons (f : Formula) {record record' : Record}
    (herrors : ∀ c ∈ f.comparisons,
      ∃ outcome, (atom c).evaluate record' = .ok outcome ∧ outcome.error? = none)
    (hpasses : ∀ c ∈ f.comparisons,
      (atom c).evaluate record = .ok .passed → (atom c).evaluate record' = .ok .passed)
    (h : f.evaluate record = .ok .passed) : f.evaluate record' = .ok .passed := by
  simp only [evaluate_atom] at herrors hpasses
  obtain ⟨-, hholds⟩ := evaluate_eq_passed_iff.mp h
  refine evaluate_eq_passed_iff.mpr ⟨herrors, holds_mono f ?_ hholds⟩
  intro c hc hpassed
  exact Outcome.passes_iff.mpr (hpasses c hc (Outcome.passes_iff.mp hpassed))

/-- Both records meet the threshold. Of the alternatives the first record meets one and the second
record the other one as well. -/
theorem passed_of_comparisons_of_better :
    let threshold : Comparison := ⟨"age", ">=", .number (.int 30)⟩
    let city : Comparison := ⟨"city", "=", .text "Paris"⟩
    let member : Comparison := ⟨"member", "=", .text "yes"⟩
    let f : Formula := .join .and (.atom threshold) (.join .or (.atom city) (.atom member))
    let record : Record := [("age", .ofInt 30), ("member", .text "yes")]
    let record' : Record := [("age", .ofInt 31), ("city", .text "Paris"), ("member", .text "yes")]
    (∀ c ∈ f.comparisons,
        ∃ outcome, (atom c).evaluate record' = .ok outcome ∧ outcome.error? = none) ∧
      (∀ c ∈ f.comparisons,
        (atom c).evaluate record = .ok .passed → (atom c).evaluate record' = .ok .passed) ∧
      f.evaluate record = .ok .passed ∧ f.evaluate record' = .ok .passed := by
  intro threshold city member f record record'
  have hcomparisons : f.comparisons = [threshold, city, member] := by simp [f]
  have hthreshold {n : Int} (h : Number.atMost (.int 30) (.int n) = true) :
      threshold.test (.ofInt n) = .ok .passed := by
    show Except.ok (Outcome.ofBool (Number.atMost (.int 30) (.int n))) = _
    rw [h]
    rfl
  have hbetter : ∀ c ∈ f.comparisons, (atom c).evaluate record' = .ok .passed := by
    rw [hcomparisons]
    simp only [List.forall_mem_cons, List.not_mem_nil, false_implies, implies_true, and_true,
      evaluate_atom]
    exact ⟨hthreshold (by decide +kernel), rfl, rfl⟩
  have herrors : ∀ c ∈ f.comparisons,
      ∃ outcome, (atom c).evaluate record' = .ok outcome ∧ outcome.error? = none :=
    fun c hc => ⟨.passed, hbetter c hc, rfl⟩
  have hpassed : f.evaluate record = .ok .passed := by
    have hage : threshold.evaluate record = .ok .passed := hthreshold (by decide +kernel)
    rw [evaluate_join, evaluate_join, evaluate_atom, evaluate_atom, evaluate_atom, hage]
    rfl
  exact ⟨herrors, fun c hc _ => hbetter c hc, hpassed,
    passed_of_comparisons f herrors (fun c hc _ => hbetter c hc) hpassed⟩

end Formula

end Eligibility

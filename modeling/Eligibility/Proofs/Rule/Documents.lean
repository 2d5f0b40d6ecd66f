import Eligibility.Proofs.Rule.Encoding

/-!
# Documents that are formulas

Which documents decode, and to what. `Value.IsFormula` says it of the document alone, with no work
list and no errors: each object has the fields of a comparison (`Fields.Compares`) or of a join
(`Fields.Joins`), whatever else it has. Such a document decodes to a formula
(`exists_of_isFormula`), and nothing else decodes (`isFormula_of_decode`). What is encoded again is
the document with all other fields left out, at every level (`Value.pruned`).
-/

namespace Eligibility

namespace Fields

/-! ## Fields -/

/-- The fields are those of a comparison. Its literal is a text or a number of either kind. -/
structure Compares (fields : Fields) (c : Comparison) : Prop where
  type : Fields.get? fields "type" = some (.text "operand")
  name : Fields.get? fields "attribute" = some (.text c.name)
  operator : Fields.get? fields "operator" = some (.text c.operator)
  value : Fields.get? fields "value" = some c.value.toValue

/-- The fields are those of a join, whatever its sides are. -/
structure Joins (fields : Fields) (operator left right : Value) : Prop where
  type : Fields.get? fields "type" = some (.text "operator")
  operator : Fields.get fields "operator" = operator
  left : Fields.get? fields "left" = some left
  right : Fields.get? fields "right" = some right

theorem get?_of_get {fields : Fields} {key : String} {v : Value} (h : fields.get key = v)
    (hv : v ≠ .null) : fields.get? key = some v := by
  unfold get at h
  cases hfield : fields.get? key with
  | none =>
      rw [hfield] at h
      exact absurd h.symm hv
  | some w =>
      rw [hfield] at h
      exact congrArg some h

theorem get_of_get? {fields : Fields} {key : String} {v : Value} (h : fields.get? key = some v) :
    fields.get key = v := by
  rw [get, h]
  rfl

/-- The fields of these names, as far as they are there. They are put in the order of the names,
since an object is the same in whatever order its fields stand. -/
def keep (names : List String) (fields : Fields) : Fields :=
  names.filterMap fun name => (fields.get? name).map (name, ·)

end Fields

namespace Value

/-! ## Documents -/

/-- The document is that of a formula, but for fields that mean nothing. -/
inductive IsFormula : Value → Prop
  | comparison {fields : Fields} {c : Comparison} (h : fields.Compares c) :
      IsFormula (.object fields)
  | join {fields : Fields} {op : Connective} {left right : Value}
      (h : fields.Joins (.text op.keyword) left right) (hleft : IsFormula left)
      (hright : IsFormula right) : IsFormula (.object fields)

/-- The fields that mean something in an object of this type. -/
def meantFields : Value → List String
  | .text "operand" => ["type", "operator", "attribute", "value"]
  | .text "operator" => ["type", "operator", "left", "right"]
  | _ => []

mutual

/-- The document without the fields that mean nothing, at every level. -/
def pruned : Value → Value
  | .object fields => .object (Fields.keep (meantFields (Fields.get fields "type"))
      (prunedFields fields))
  | v => v

/-- The fields with their values pruned. -/
def prunedFields : List (String × Value) → List (String × Value)
  | [] => []
  | (key, v) :: rest => (key, pruned v) :: prunedFields rest

end

theorem get?_prunedFields (fields : Fields) (key : String) :
    Fields.get? (prunedFields fields) key = (fields.get? key).map pruned := by
  induction fields with
  | nil => rfl
  | cons field rest ih =>
      obtain ⟨k, v⟩ := field
      rw [prunedFields, Fields.get?_cons, Fields.get?_cons, ih]
      split
      · rfl
      · rfl

theorem pruned_of_compares {fields : Fields} {c : Comparison} (h : fields.Compares c) :
    pruned (.object fields) = Formula.comparisonValue c := by
  have hliteral : pruned c.value.toValue = c.value.toValue := by
    cases c.value <;> rfl
  rw [pruned, Fields.get_of_get? h.type]
  simp [meantFields, Fields.keep, get?_prunedFields, h.type, h.name, h.operator, h.value, hliteral,
    Formula.comparisonValue, pruned]

example : pruned (.object [("value", .number (.int 30)), ("note", .text "adults"),
    ("attribute", .text "age"), ("operator", .text ">"), ("type", .text "operand")]) =
    Formula.comparisonValue ⟨"age", ">", .number (.int 30)⟩ := rfl

theorem pruned_of_joins {fields : Fields} {op : Connective} {left right : Value}
    (h : fields.Joins (.text op.keyword) left right) :
    pruned (.object fields) = Formula.joinValue op left.pruned right.pruned := by
  have hoperator := Fields.get?_of_get h.operator (by simp)
  rw [pruned, Fields.get_of_get? h.type]
  simp [meantFields, Fields.keep, get?_prunedFields, h.type, hoperator, h.left, h.right,
    Formula.joinValue, pruned]

end Value

namespace Formula

/-! ## What is read of a layer -/

theorem literal?_eq_ok_iff {v : Value} {literal : Literal} :
    literal? v = .ok literal ↔ v = literal.toValue := by
  constructor
  · intro h
    cases v with
    | text s =>
        obtain rfl := Except.ok.inj h
        rfl
    | number n =>
        obtain rfl := Except.ok.inj h
        rfl
    | _ => exact nomatch h
  · rintro rfl
    cases literal <;> rfl

theorem comparison?_eq_ok {fields : Fields} {c : Comparison} (h : comparison? fields = .ok c) :
    fields.get "attribute" = .text c.name ∧ fields.get "operator" = .text c.operator ∧
      fields.get "value" = c.value.toValue := by
  unfold comparison? at h
  split at h
  · rename_i name operator hname hoperator
    cases hliteral : literal? (fields.get "value") with
    | error e =>
        rw [hliteral] at h
        exact nomatch h
    | ok literal =>
        rw [hliteral] at h
        obtain rfl := Except.ok.inj h
        exact ⟨hname, hoperator, literal?_eq_ok_iff.mp hliteral⟩
  · exact nomatch h

theorem layer?_comparison_iff {v : Value} {c : Comparison} :
    layer? v = .ok (.comparison c) ↔ ∃ fields : Fields, v = .object fields ∧ fields.Compares c := by
  constructor
  · intro h
    unfold layer? at h
    split at h
    · rename_i fields
      split at h
      · rename_i htype
        cases hcomparison : comparison? fields with
        | error e =>
            rw [hcomparison] at h
            exact nomatch h
        | ok c =>
            rw [hcomparison] at h
            obtain rfl := Layer.comparison.inj (Except.ok.inj h)
            obtain ⟨hname, hoperator, hvalue⟩ := comparison?_eq_ok hcomparison
            refine ⟨fields, rfl, Fields.get?_of_get htype (by simp), Fields.get?_of_get hname (by simp),
              Fields.get?_of_get hoperator (by simp), Fields.get?_of_get hvalue ?_⟩
            cases c.value <;> simp [Literal.toValue]
      · unfold parts? at h
        split at h
        · exact nomatch Except.ok.inj h
        · exact nomatch h
      · exact nomatch h
    · exact nomatch h
  · rintro ⟨fields, rfl, h⟩
    simp only [layer?, comparison?, Fields.get_of_get? h.type, Fields.get_of_get? h.name,
      Fields.get_of_get? h.operator, Fields.get_of_get? h.value, literal?_eq_ok_iff.mpr rfl]
    rfl

theorem layer?_join_iff {v operator left right : Value} :
    layer? v = .ok (.join operator left right) ↔
      ∃ fields : Fields, v = .object fields ∧ fields.Joins operator left right := by
  constructor
  · intro h
    unfold layer? at h
    split at h
    · rename_i fields
      split at h
      · cases hcomparison : comparison? fields with
        | error e =>
            rw [hcomparison] at h
            exact nomatch h
        | ok c =>
            rw [hcomparison] at h
            exact nomatch Except.ok.inj h
      · rename_i htype
        unfold parts? at h
        split at h
        · rename_i l r hleft hright
          obtain ⟨hoperator, rfl, rfl⟩ := Layer.join.inj (Except.ok.inj h)
          exact ⟨fields, rfl, Fields.get?_of_get htype (by simp), hoperator, hleft, hright⟩
        · exact nomatch h
      · exact nomatch h
    · exact nomatch h
  · rintro ⟨fields, rfl, h⟩
    simp only [layer?, parts?, Fields.get_of_get? h.type, h.operator, h.left, h.right]

theorem joinBy?_eq_ok {operator : Value} {left right f : Formula}
    (h : joinBy? operator left right = .ok f) :
    ∃ op : Connective, operator = .text op.keyword ∧ f = .join op left right := by
  unfold joinBy? at h
  split at h
  · rename_i op hop
    obtain rfl := Except.ok.inj h
    refine ⟨op, ?_, rfl⟩
    cases operator with
    | text s =>
        simp only [Connective.ofValue?, Connective.ofKeyword?] at hop
        split at hop
        · rename_i hs
          obtain rfl := Option.some.inj hop
          exact congrArg Value.text hs
        · split at hop
          · rename_i hs
            obtain rfl := Option.some.inj hop
            exact congrArg Value.text hs
          · cases hop
    | _ => cases hop
  · cases h

/-! ## What decodes, and to what -/

theorem isFormula_of_decode {v : Value} {f : Formula} (h : decode v = .ok f) : v.IsFormula := by
  fun_induction decode v generalizing f with
  | case1 v e hlayer => cases h
  | case2 v c hlayer =>
      obtain ⟨fields, rfl, hfields⟩ := layer?_comparison_iff.mp hlayer
      exact .comparison hfields
  | case3 v operator left right hlayer e hl ihl => cases h
  | case4 v operator left right hlayer l hl e hr ihl ihr => cases h
  | case5 v operator left right hlayer l hl r hr ihl ihr =>
      obtain ⟨fields, rfl, hfields⟩ := layer?_join_iff.mp hlayer
      obtain ⟨op, rfl, -⟩ := joinBy?_eq_ok h
      exact .join hfields (ihl hl) (ihr hr)

/-- A formula's document decodes, and encoding the formula again leaves out what means nothing. -/
theorem exists_of_isFormula {v : Value} (h : v.IsFormula) :
    ∃ f, decode v = .ok f ∧ f.toValue = v.pruned := by
  induction h with
  | @comparison fields c hfields =>
      refine ⟨.atom c, ?_, ?_⟩
      · exact decode_of_comparison (layer?_comparison_iff.mpr ⟨fields, rfl, hfields⟩)
      · rw [Value.pruned_of_compares hfields, toValue, fold_atom]
  | @join fields op left right hfields _ _ ihl ihr =>
      obtain ⟨l, hl, hlpruned⟩ := ihl
      obtain ⟨r, hr, hrpruned⟩ := ihr
      refine ⟨.join op l r, ?_, ?_⟩
      · rw [decode_of_join (layer?_join_iff.mpr ⟨fields, rfl, hfields⟩) hl hr, joinBy?_keyword]
      · rw [Value.pruned_of_joins hfields, ← hlpruned, ← hrpruned, toValue, fold_join]
        rfl

theorem ofValue?_eq_ok_iff {v : Value} {f : Formula} :
    ofValue? v = .ok f ↔ v.IsFormula ∧ f.toValue = v.pruned := by
  rw [ofValue?_eq_decode]
  constructor
  · intro h
    have hv := isFormula_of_decode h
    obtain ⟨g, hg, hpruned⟩ := exists_of_isFormula hv
    obtain rfl : f = g := Except.ok.inj (h.symm.trans hg)
    exact ⟨hv, hpruned⟩
  · rintro ⟨hv, hf⟩
    obtain ⟨g, hg, hpruned⟩ := exists_of_isFormula hv
    -- two formulas with one document are one formula
    have hsame : ofValue? f.toValue = ofValue? g.toValue := by rw [hf, hpruned]
    rw [ofValue?_toValue, ofValue?_toValue] at hsame
    rw [hg, hsame]

/-- **Decoding and encoding are inverse to each other.** A formula is read back from its document.
A document decodes exactly when it is a formula's but for fields that mean nothing, and the formula
that it decodes to is the one whose document is what is left of it without these fields. -/
theorem ofValue?_inverse_toValue :
    (∀ f : Formula, ofValue? f.toValue = .ok f) ∧
    ∀ v : Value, ((∃ f, ofValue? v = .ok f) ↔ v.IsFormula) ∧
      ∀ f, ofValue? v = .ok f ↔ v.IsFormula ∧ f.toValue = v.pruned := by
  refine ⟨ofValue?_toValue, fun v => ⟨⟨?_, ?_⟩, fun f => ofValue?_eq_ok_iff⟩⟩
  · rintro ⟨f, hf⟩
    exact (ofValue?_eq_ok_iff.mp hf).1
  · intro hv
    obtain ⟨f, hf, -⟩ := exists_of_isFormula hv
    exact ⟨f, (ofValue?_eq_decode v).trans hf⟩

end Formula

end Eligibility

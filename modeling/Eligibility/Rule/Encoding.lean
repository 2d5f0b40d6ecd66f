import Eligibility.Rule.Formula
import Eligibility.Rule.Invalid

/-!
# Formulas as documents

A formula is stored and exchanged as a document with one object for each comparison and
each join. Decoding works through the document with an explicit list of work, as folding
does; `run_visit` says that this is plain recursion on the document: the sides of a join are
decoded first, and only then its connective is looked at.
-/

namespace Eligibility.Formula

/-! ## Encoding -/

/-- The document of a comparison. -/
def comparisonValue (c : Comparison) : Value :=
  .object [("type", .text "operand"), ("operator", .text c.operator),
    ("attribute", .text c.name), ("value", c.value.toValue)]

/-- The document of a join, from those of its sides. -/
def joinValue (op : Connective) (left right : Value) : Value :=
  .object [("type", .text "operator"), ("operator", .text op.keyword), ("left", left),
    ("right", right)]

/-- The document of a formula. -/
def toValue (f : Formula) : Value := fold comparisonValue (fun op _ _ l r => joinValue op l r) f

/-! ## Decoding -/

/-- The outermost layer of a document: a comparison, or the parts of a join. -/
inductive Layer where
  | comparison (c : Comparison)
  | join (operator left right : Value)

/-- The literal of a value. -/
def literal? : Value → Except InvalidFormula Literal
  | .text s => .ok (.text s)
  | .number n => .ok (.number n)
  | v => .error (.unsupportedLiteral v)

/-- The comparison of an object's fields. -/
def comparison? (fields : Fields) : Except InvalidFormula Comparison :=
  match fields.get "attribute", fields.get "operator" with
  | .text name, .text operator =>
      (literal? (fields.get "value")).map fun value => ⟨name, operator, value⟩
  | _, _ => .error .incompleteComparison

/-- The join of an object's fields, its sides not looked at yet. -/
def parts? (fields : Fields) : Except InvalidFormula Layer :=
  match fields.get? "left", fields.get? "right" with
  | some left, some right => .ok (.join (fields.get "operator") left right)
  | _, _ => .error .missingSide

/-- The outermost layer of a document. -/
def layer? : Value → Except InvalidFormula Layer
  | .object fields =>
      match Fields.get fields "type" with
      | .text "operand" => (comparison? fields).map .comparison
      | .text "operator" => parts? fields
      | type => .error (.unknownType type)
  | v => .error (.notAnObject v.kindName)

/-- The join of two formulas by the connective that a document names. -/
def joinBy? (operator : Value) (left right : Formula) : Except InvalidFormula Formula :=
  match Connective.ofValue? operator with
  | some op => .ok (.join op left right)
  | none => .error (.unknownConnective operator)

theorem sizeOf_lt_of_get? {fields : Fields} {key : String} {v : Value}
    (h : fields.get? key = some v) : sizeOf v < sizeOf fields := by
  induction fields with
  | nil => simp [Fields.get?] at h
  | cons field rest ih =>
    obtain ⟨k, w⟩ := field
    rw [Fields.get?_cons] at h
    split at h
    · obtain rfl := Option.some.inj h
      simp; omega
    · have := ih h
      simp; omega

theorem sizeOf_lt_of_layer? {v operator left right : Value}
    (h : layer? v = .ok (.join operator left right)) :
    sizeOf left < sizeOf v ∧ sizeOf right < sizeOf v := by
  unfold layer? at h
  split at h
  · rename_i fields
    split at h
    · cases hc : comparison? fields <;> simp [hc, Except.map] at h
    · unfold parts? at h
      split at h
      · rename_i l r hl hr
        simp only [Except.ok.injEq, Layer.join.injEq] at h
        obtain ⟨-, rfl, rfl⟩ := h
        have := sizeOf_lt_of_get? hl
        have := sizeOf_lt_of_get? hr
        simp; omega
      · simp at h
    · simp at h
  · simp at h

/-- The formula of a document by recursion: the left side, the right side, and then the
connective. -/
def decode (v : Value) : Except InvalidFormula Formula :=
  match _h : layer? v with
  | .error e => .error e
  | .ok (.comparison c) => .ok (.atom c)
  | .ok (.join operator left right) =>
      match decode left with
      | .error e => .error e
      | .ok l =>
          match decode right with
          | .error e => .error e
          | .ok r => joinBy? operator l r
termination_by sizeOf v
decreasing_by
  · exact (sizeOf_lt_of_layer? _h).1
  · exact (sizeOf_lt_of_layer? _h).2

/-- A piece of work on the way through a document. -/
inductive Task where
  | visit (v : Value)
  | build (operator : Value)

/-- A bound on the number of steps of a piece of work. The parts of a document are smaller
than the document, so two of them together weigh less than half of it. -/
noncomputable def Task.weight : Task → Nat
  | .visit v => Nat.pow 4 (sizeOf v)
  | .build _ => 1

/-- A bound on the number of steps of a list of work. -/
noncomputable def taskWeight : List Task → Nat
  | [] => 0
  | t :: work => t.weight + taskWeight work

theorem weight_parts_lt {m n k : Nat} (hm : m < k) (hn : n < k) :
    Nat.pow 4 m + (Nat.pow 4 n + 1) < Nat.pow 4 k := by
  obtain ⟨j, rfl⟩ : ∃ j, k = j + 1 := ⟨k - 1, by omega⟩
  have hm' : Nat.pow 4 m ≤ Nat.pow 4 j := Nat.pow_le_pow_right (by decide) (by omega)
  have hn' : Nat.pow 4 n ≤ Nat.pow 4 j := Nat.pow_le_pow_right (by decide) (by omega)
  have hj : 0 < Nat.pow 4 j := Nat.pow_pos (by decide)
  have : Nat.pow 4 (j + 1) = Nat.pow 4 j * 4 := rfl
  omega

/-- Works through a list of tasks with the formulas so far, latest first. There is no answer
when a task finds fewer formulas than it needs. -/
def decodeRun : List Task → List Formula → Option (Except InvalidFormula (List Formula))
  | [], done => some (.ok done)
  | .visit v :: work, done =>
      match _h : layer? v with
      | .error e => some (.error e)
      | .ok (.comparison c) => decodeRun work (.atom c :: done)
      | .ok (.join operator left right) =>
          decodeRun (.visit left :: .visit right :: .build operator :: work) done
  | .build operator :: work, r :: l :: done =>
      match joinBy? operator l r with
      | .error e => some (.error e)
      | .ok f => decodeRun work (f :: done)
  | .build _ :: _, _ => none
termination_by work => taskWeight work
decreasing_by
  · have : 0 < Nat.pow 4 (sizeOf v) := Nat.pow_pos (by decide)
    simp only [taskWeight, Task.weight]
    omega
  · have := weight_parts_lt (sizeOf_lt_of_layer? _h).1 (sizeOf_lt_of_layer? _h).2
    simp only [taskWeight, Task.weight]
    omega
  · simp only [taskWeight, Task.weight]
    omega

/-- A visit ends the work with the error of the recursion, or leaves its formula. -/
theorem decodeRun_visit (v : Value) (work : List Task) (done : List Formula) :
    decodeRun (.visit v :: work) done =
      match decode v with
      | .error e => some (.error e)
      | .ok f => decodeRun work (f :: done) := by
  fun_induction decode v generalizing work done with
  | case1 v e h => rw [decodeRun]; split <;> simp_all
  | case2 v c h => rw [decodeRun]; split <;> simp_all
  | case3 v operator left right h e hl ihl => rw [decodeRun]; split <;> simp_all
  | case4 v operator left right h l hl e hr ihl ihr => rw [decodeRun]; split <;> simp_all
  | case5 v operator left right h l hl r hr ihl ihr =>
    rw [decodeRun]
    split
    · simp_all
    · simp_all
    · rename_i operator' left' right' h'
      obtain ⟨rfl, rfl, rfl⟩ : operator = operator' ∧ left = left' ∧ right = right' := by
        simpa [h] using h'
      simp only [ihl, hl, ihr, hr, decodeRun]

/-- The work on a document ends with its error or with exactly one formula. -/
theorem decodeRun_single (v : Value) :
    decodeRun [.visit v] [] = some ((decode v).map fun f => [f]) := by
  rw [decodeRun_visit]
  cases decode v <;> simp [decodeRun, Except.map]

/-- The outcome of work that ends with its error or with exactly one formula. -/
def single? : Except InvalidFormula (List Formula) → Option (Except InvalidFormula Formula)
  | .error e => some (.error e)
  | .ok [f] => some (.ok f)
  | .ok _ => none

theorem single?_map (outcome : Except InvalidFormula Formula) :
    single? (outcome.map fun f => [f]) = some outcome := by
  cases outcome <;> rfl

/-- The formula of a document. -/
def ofValue? (v : Value) : Except InvalidFormula Formula :=
  ((decodeRun [.visit v] []).bind single?).get (by simp [decodeRun_single, single?_map])

/-- Decoding is recursion on the document. -/
theorem ofValue?_eq_decode (v : Value) : ofValue? v = decode v := by
  simp [ofValue?, decodeRun_single, single?_map]

end Eligibility.Formula

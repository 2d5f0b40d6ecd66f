import Eligibility.Proofs.Rule.Descent
import Eligibility.Proofs.Rule.Outcome
import Eligibility.Proofs.Rule.RoundTrip

/-!
# Nothing else can happen

Reading a text ends in a formula or in a refusal, and evaluating a formula ends in an outcome.
Both are shown of computations that have failures to fall into. For reading that is the recursive
descent. For evaluation it is `Unguarded`, whose functions take the field of a record, the number
of a text, the order of two values and the latest results as if they were there: each of them
fails where that is not so. What keeps the failures away is that every use has its guard.

One guard is not enough. What passes the test for numbers may be an integer with too many digits,
and that is not read: neither in a text (`ofText?_error_number`) nor where a comparison reads the
text of a record or of a literal (`Comparison.Overreads`). `engine_fails_only_on_long_integers` puts
the two together, with everything else that does not fail.
-/

namespace Eligibility

/-! ## Evaluation -/

namespace Unguarded

/-- The value of a field. -/
def field (record : Record) (name : String) : Except Abort Value :=
  match record.get? name with
  | some v => return v
  | none => throw (.noField name)

/-- The number of a text. -/
def number (s : String) : Except Abort Number :=
  match Number.read s with
  | .ok n => return n
  | .error e => throw (.number e)

/-- Two values are in an order of numbers. -/
def ordered (holds : Number → Number → Bool) : Value → Value → Except Abort Bool
  | .number x, .number y => return holds x y
  | _, _ => throw .noOrder

/-- The text reads as this number. -/
def readsAs (s : String) (n : Number) : Except Abort Bool := do
  if Number.isNumericText s then return (← number s).equal n else return false

/-- The equality of rules. -/
def looselyEqual : Value → Value → Except Abort Bool
  | .number m, .number n => return m.equal n
  | .bool a, .bool b => return a == b
  | .text s, .text t => return s == t
  | .text s, .number n => readsAs s n
  | .number n, .text s => readsAs s n
  | _, _ => return false

/-- The outcome of a comparison with the value of its attribute. -/
def test (c : Comparison) (actual : Value) : Except Abort Outcome := do
  let expected := c.value.toValue
  match orderOf? c.operator with
  | some holds =>
      if actual.number?.isSome && expected.number?.isSome then
        return .ofBool (← ordered holds actual expected)
      else return .error (.requiresNumbers c.operator)
  | none =>
      if c.operator = "=" then return .ofBool (← looselyEqual actual expected)
      else return .error (.unknownOperator c.operator)

/-- The outcome of a comparison on a record. -/
def comparison (record : Record) (c : Comparison) : Except Abort Outcome := do
  if record.has c.name then test c (← field record c.name) else return .failed

/-- The outcome of a join, if its sides have outcomes. -/
def join (op : Connective) (left right : Except Abort Outcome) : Except Abort Outcome := do
  return (← left).join op (← right)

/-- The outcome of a formula on a record, with those of its parts on a stack. -/
def evaluate (record : Record) (f : Formula) : Except Abort Outcome :=
  match Formula.run (comparison record) (fun op _ _ => join op) [.visit f] [] with
  | some (outcome :: _) => outcome
  | _ => throw Abort.noResult

/-! ### The guards -/

theorem readsAs_eq (s : String) (n : Number) :
    readsAs s n = (Value.readsAs s n).mapError .number := by
  unfold readsAs Value.readsAs number
  cases Number.isNumericText s with
  | false => rfl
  | true => cases Number.read s <;> rfl

theorem looselyEqual_eq (v w : Value) :
    looselyEqual v w = (v.looselyEqual w).mapError .number := by
  cases v <;> cases w <;> first | rfl | exact readsAs_eq _ _

theorem test_eq (c : Comparison) (actual : Value) :
    test c actual = (c.test actual).mapError .number := by
  unfold test Comparison.test
  cases orderOf? c.operator with
  | some holds =>
      cases actual <;> cases c.value <;> rfl
  | none =>
      by_cases hequal : c.operator = "="
      · simp only [hequal, if_true, looselyEqual_eq]
        cases actual.looselyEqual c.value.toValue <;> rfl
      · simp only [hequal, if_false]
        rfl

theorem comparison_eq (record : Record) (c : Comparison) :
    comparison record c = (c.evaluate record).mapError .number := by
  unfold comparison Comparison.evaluate field Fields.has
  cases record.get? c.name with
  | none => rfl
  | some actual => exact test_eq c actual

/-- **Evaluation fails in no other way than at a number that is not read.** -/
theorem evaluate_eq (record : Record) (f : Formula) :
    evaluate record f = (f.evaluate record).mapError .number := by
  unfold evaluate
  rw [Formula.run_single]
  show Formula.recurse _ _ f = _
  induction f with
  | atom c =>
      rw [Formula.recurse, comparison_eq, Formula.evaluate_atom]
  | join op left right ihl ihr =>
      rw [Formula.recurse, ihl, ihr, Formula.evaluate_join]
      cases left.evaluate record with
      | error e => rfl
      | ok outcome => cases right.evaluate record <;> rfl

end Unguarded

/-! ### Where a number is not read -/

/-- The comparison by `=` of a number with a text that is an integer of so many digits, which are
too many. The text may stand in the record or in the comparison. -/
def Comparison.Overreads (record : Record) (c : Comparison) (count : Nat) : Prop :=
  c.operator = "=" ∧ ∃ s n, Number.IsOverlong s count ∧
    (record.get? c.name = some (.text s) ∧ c.value = .number n ∨
      record.get? c.name = some (.number n) ∧ c.value = .text s)

theorem Value.readsAs_eq_error_iff {s : String} {n : Number} {e : Number.ConversionError} :
    readsAs s n = .error e ↔ ∃ count, Number.IsOverlong s count ∧ e = .tooManyDigits count := by
  unfold readsAs
  split
  · rename_i hnumeric
    rw [← Number.read_eq_error_iff hnumeric]
    cases Number.read s <;> simp [Except.map]
  · rename_i hnumeric
    constructor
    · rintro ⟨⟩
    · rintro ⟨count, hlong, -⟩
      exact absurd hlong.isNumericText hnumeric

theorem Value.looselyEqual_eq_error_iff {v : Value} {l : Literal} {e : Number.ConversionError} :
    v.looselyEqual l.toValue = .error e ↔ ∃ count, (∃ s n, Number.IsOverlong s count ∧
      (v = .text s ∧ l = .number n ∨ v = .number n ∧ l = .text s)) ∧ e = .tooManyDigits count := by
  match v, l with
  | .text s, .number n =>
      refine readsAs_eq_error_iff.trans (exists_congr fun count => ?_)
      simp
  | .number n, .text s =>
      refine readsAs_eq_error_iff.trans (exists_congr fun count => ?_)
      simp
  | .text s, .text t => simp [looselyEqual, Literal.toValue]
  | .number m, .number n => simp [looselyEqual, Literal.toValue]
  | .null, .text _ | .null, .number _ | .bool _, .text _ | .bool _, .number _ | .list _, .text _
  | .list _, .number _ | .object _, .text _ | .object _, .number _ =>
      simp [looselyEqual, Literal.toValue]

/-- A comparison has no outcome only where it reads too many digits. -/
theorem Comparison.evaluate_eq_error_iff {record : Record} {c : Comparison}
    {e : Number.ConversionError} :
    c.evaluate record = .error e ↔
      ∃ count, c.Overreads record count ∧ e = .tooManyDigits count := by
  unfold Overreads evaluate
  cases record.get? c.name with
  | none => simp
  | some actual =>
      by_cases hequal : c.operator = "="
      · have horder : orderOf? "=" = none := by simp [orderOf?]
        have htest : c.test actual = (actual.looselyEqual c.value.toValue).map .ofBool := by
          simp [test, hequal, horder]
        have hmap : (actual.looselyEqual c.value.toValue).map Outcome.ofBool = .error e ↔
            actual.looselyEqual c.value.toValue = .error e := by
          cases actual.looselyEqual c.value.toValue <;> simp [Except.map]
        show c.test actual = .error e ↔ _
        rw [htest, hmap, Value.looselyEqual_eq_error_iff]
        simp [hequal]
      · have htest : c.test actual ≠ .error e := by
          unfold test
          cases orderOf? c.operator with
          | some holds => cases actual.number? <;> cases c.value.toValue.number? <;> simp
          | none => simp [hequal]
        simp [htest, hequal]

/-- A formula has an outcome if all its comparisons have one; otherwise one of them says why not. -/
theorem Formula.evaluate_eq_error_cases (record : Record) (f : Formula) :
    ((∃ outcome, f.evaluate record = .ok outcome) ∧
      ∀ c ∈ f.comparisons, ∃ outcome, c.evaluate record = .ok outcome) ∨
    ∃ c ∈ f.comparisons, ∃ e, f.evaluate record = .error e ∧ c.evaluate record = .error e := by
  induction f with
  | atom c =>
      rw [evaluate_atom, comparisons_atom]
      cases hc : c.evaluate record with
      | ok outcome => exact .inl ⟨⟨outcome, rfl⟩, by simp [hc]⟩
      | error e => exact .inr ⟨c, by simp, e, rfl, hc⟩
  | join op left right ihl ihr =>
      rw [evaluate_join, comparisons_join]
      rcases ihl with ⟨⟨outcome, hleft⟩, hl⟩ | ⟨c, hc, e, hleft, herror⟩
      · rcases ihr with ⟨⟨outcome', hright⟩, hr⟩ | ⟨c, hc, e, hright, herror⟩
        · refine .inl ⟨⟨outcome.join op outcome', by rw [hleft, hright]; rfl⟩, fun c hc => ?_⟩
          rcases List.mem_append.mp hc with hc | hc
          · exact hl c hc
          · exact hr c hc
        · exact .inr ⟨c, List.mem_append_right _ hc, e, by rw [hleft, hright]; rfl, herror⟩
      · exact .inr ⟨c, List.mem_append_left _ hc, e, by rw [hleft]; rfl, herror⟩

/-- A formula has no outcome exactly where one of its comparisons reads too many digits. -/
theorem Formula.evaluate_eq_ok_iff {record : Record} {f : Formula} :
    (∃ outcome, f.evaluate record = .ok outcome) ↔
      ∀ c ∈ f.comparisons, ∀ count, ¬ c.Overreads record count := by
  rcases evaluate_eq_error_cases record f with ⟨hok, hall⟩ | ⟨c, hc, e, hf, herror⟩
  · refine iff_of_true hok fun c hc count hover => ?_
    obtain ⟨outcome, houtcome⟩ := hall c hc
    cases houtcome.symm.trans (Comparison.evaluate_eq_error_iff.mpr ⟨count, hover, rfl⟩)
  · obtain ⟨count, hover, -⟩ := Comparison.evaluate_eq_error_iff.mp herror
    refine iff_of_false ?_ fun h => h c hc count hover
    rintro ⟨outcome, houtcome⟩
    cases hf.symm.trans houtcome

/-! ## Reading -/

/-- A text whose numbers are not all read has one with too many digits. -/
theorem Formula.exists_of_ofText?_error {text : String} {maxDepth : Nat}
    {e : Number.ConversionError} (h : ofText? text maxDepth = .error (.number e)) :
    ∃ token ∈ Token.scan text, ∃ count, token.kind = .number ∧
      Number.IsOverlong token.lexeme count ∧ e = .tooManyDigits count := by
  obtain ⟨read, rest, state, htokens, -, hend⟩ := Parser.parse_eq_iff.mp h
  cases hend with
  | @unreadable _ _ _ _ _ value _ _ _ hvalue _ hnumber =>
      have hmem : value ∈ Token.scan text := by simp [htokens]
      obtain ⟨count, hlong, he⟩ :=
        (Number.read_eq_error_iff (readable_of_mem_scan hmem hvalue)).mp hnumber
      exact ⟨value, hmem, count, hvalue, hlong, he⟩

/-! ## Main result -/

/-- **Nothing fails but by a refusal, or at an integer with too many digits.** Over any text, and
for any limit, the recursive descent ends in agreement with the parser: with a formula, by refusing
the text, or at a number of the text that is such an integer. Evaluating a formula on a record fails
exactly if one of its comparisons has to read such an integer, and fails there; otherwise there is
an outcome. -/
theorem engine_fails_only_on_long_integers (text : String) (maxDepth : Int) (record : Record)
    (f : Formula) :
    (∃ cursor,
      (∃ read, Formula.ofText? text maxDepth.toNat = .ok read ∧
        Descent.run (Descent.parse maxDepth) ⟨Token.scan text, 0⟩ = some (.ok read, cursor)) ∨
      (∃ e, Formula.ofText? text maxDepth.toNat = .error (.syntaxError e) ∧
        Descent.run (Descent.parse maxDepth) ⟨Token.scan text, 0⟩ =
          some (.error (.refused e), cursor)) ∨
      ∃ token ∈ Token.scan text, ∃ count, token.kind = .number ∧
        Number.IsOverlong token.lexeme count ∧
        Formula.ofText? text maxDepth.toNat = .error (.number (.tooManyDigits count)) ∧
        Descent.run (Descent.parse maxDepth) ⟨Token.scan text, 0⟩ =
          some (.error (.number (.tooManyDigits count)), cursor)) ∧
    ((∃ outcome, f.evaluate record = .ok outcome ∧ Unguarded.evaluate record f = .ok outcome) ↔
      ∀ c ∈ f.comparisons, ∀ count, ¬ c.Overreads record count) ∧
    ∀ abort, Unguarded.evaluate record f = .error abort →
      ∃ c ∈ f.comparisons, ∃ count, c.Overreads record count ∧
        abort = .number (.tooManyDigits count) := by
  refine ⟨?_, ?_, fun abort h => ?_⟩
  · obtain ⟨cursor, hrun⟩ : ∃ cursor, Descent.run (Descent.parse maxDepth) ⟨Token.scan text, 0⟩ =
        some ((Formula.ofText? text maxDepth.toNat).mapError .ofText, cursor) :=
      Descent.run_parse maxDepth (Token.scan text)
    refine ⟨cursor, ?_⟩
    rw [hrun]
    cases hread : Formula.ofText? text maxDepth.toNat with
    | ok f => exact .inl ⟨f, rfl, rfl⟩
    | error e =>
        cases e with
        | syntaxError e => exact .inr (.inl ⟨e, rfl, rfl⟩)
        | number e =>
            obtain ⟨token, htoken, count, hkind, hlong, rfl⟩ :=
              Formula.exists_of_ofText?_error hread
            exact .inr (.inr ⟨token, htoken, count, hkind, hlong, rfl, rfl⟩)
  · rw [Unguarded.evaluate_eq, ← Formula.evaluate_eq_ok_iff]
    refine exists_congr fun outcome => and_iff_left_of_imp fun houtcome => ?_
    rw [houtcome]
    rfl
  · rw [Unguarded.evaluate_eq] at h
    rcases Formula.evaluate_eq_error_cases record f with ⟨⟨outcome, hok⟩, -⟩ |
      ⟨c, hc, e, hf, herror⟩
    · rw [hok] at h
      cases h
    · rw [hf] at h
      obtain ⟨count, hover, rfl⟩ := Comparison.evaluate_eq_error_iff.mp herror
      exact ⟨c, hc, count, hover, (Except.error.inj h).symm⟩

/-- Neither the comparison with a number of too many digits is read, nor does the comparison of such
a text with a number come to an outcome. -/
theorem engine_fails_on_ones :
    let digits := String.ofList (List.replicate 4301 '1')
    Formula.ofText? ("a" ++ " = " ++ digits) 64 = .error (.number (.tooManyDigits 4301)) ∧
      Unguarded.evaluate [("a", .text digits)] (.atom ⟨"a", "=", .number (.int 1)⟩) =
        .error (.number (.tooManyDigits 4301)) := by
  intro digits
  have hname : Token.IsName "a".toList :=
    ⟨by simp, List.all_eq_true.mp (by decide), by decide +kernel⟩
  refine ⟨Formula.ofText?_ones hname (by decide) 64, ?_⟩
  have houtcome := Formula.evaluate_of_read_error
    (Number.Numeral.isNumericText_ones (k := 4301) (by decide))
    (Number.Numeral.read_ones (by decide)) "a" (.int 1)
  rw [Unguarded.evaluate_eq, houtcome]
  rfl

end Eligibility

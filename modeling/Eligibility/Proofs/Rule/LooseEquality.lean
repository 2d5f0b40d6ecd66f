import Eligibility.Proofs.Number.Conversion
import Eligibility.Proofs.Number.Order
import Eligibility.Rule.Evaluation

/-!
# Loose equality

`=` compares values of any kind. Beside a number a text counts as the number that it spells, unless
that is an integer with too many digits, and what is neither counts as none (`Value.Counts`). Where
a number is compared, loose equality is the equality of what the two sides count as
(`looselyEqual_iff_of_isNumber`), and so it carries on from one side to the other over a number in
between, or over a text between two numbers.

It is no equivalence all the same. Not-a-number is not equal to itself, and a number may have many
spellings: it is equal to each of them, and no two of them are equal to each other. A chain from one
text over a number to another text is the only one that breaks (`looselyEqual_laws`).
-/

namespace Eligibility.Value

/-- The value is a number. -/
def IsNumber (v : Value) : Prop := v.number?.isSome = true

/-- What a value counts as beside a number: a number counts as itself, and a text as the number that
it spells, whatever blanks stand around the spelling, unless it has too many digits. -/
inductive Counts : Value → Number → Prop
  | number (n : Number) : Counts (.number n) n
  | text {s : String} {m : Number.Spelling} (h : Text.trimChars s.toList = m.chars)
      (hshort : ¬ m.IsOverlong) : Counts (.text s) m.number

theorem isNumber_iff {v : Value} : v.IsNumber ↔ ∃ n, v = .number n := by
  cases v <;> simp [IsNumber, number?]

/-- A value counts as one number at most. -/
theorem Counts.unique {v : Value} {m n : Number} (hm : v.Counts m) (hn : v.Counts n) : m = n := by
  cases hm with
  | number =>
      cases hn
      rfl
  | text hm _ =>
      obtain _ | ⟨hn, _⟩ := hn
      exact Option.some.inj ((Number.Spelling.ofText?_of_trimChars _ hm).symm.trans
        (Number.Spelling.ofText?_of_trimChars _ hn))

/-- A text reads as a number if it counts as one that is equal to it. -/
theorem readsAs_iff {s : String} {n : Number} :
    readsAs s n = .ok true ↔ ∃ m, (Value.text s).Counts m ∧ m.equal n = true := by
  unfold readsAs
  constructor
  · intro h
    split at h
    · rename_i hnumeric
      obtain ⟨m, hm⟩ := Number.exists_trimChars_eq hnumeric
      rw [m.read_of_trimChars hm] at h
      split at h
      · cases h
      · rename_i hshort
        exact ⟨m.number, .text hm hshort, Except.ok.inj h⟩
    · cases h
  · rintro ⟨_, hcounts, hequal⟩
    cases hcounts with
    | @text _ m hm hshort =>
        rw [if_pos (m.isNumericText_of_trimChars hm), m.read_of_trimChars hm, if_neg hshort]
        exact congrArg Except.ok hequal

/-! ## Laws -/

section Laws

variable {x y z : Value}

theorem looselyEqual_comm (x y : Value) : x.looselyEqual y = y.looselyEqual x := by
  cases x <;> cases y <;> simp only [looselyEqual]
  case bool.bool a b => exact congrArg Except.ok Bool.beq_comm
  case number.number m n => exact congrArg Except.ok (Number.equal_comm m n)
  case text.text s t => exact congrArg Except.ok Bool.beq_comm

/-- Beside a number, loose equality is the equality of numbers. -/
theorem looselyEqual_number_iff {n : Number} :
    x.looselyEqual (.number n) = .ok true ↔ ∃ m, x.Counts m ∧ m.equal n = true := by
  match x with
  | .number m =>
      constructor
      · exact fun h => ⟨m, .number m, Except.ok.inj h⟩
      · rintro ⟨_, ⟨⟩, h⟩
        exact congrArg Except.ok h
  | .text s => exact readsAs_iff
  | .null | .bool _ | .list _ | .object _ =>
      constructor
      · exact fun h => absurd (Except.ok.inj h) Bool.false_ne_true
      · rintro ⟨_, ⟨⟩, -⟩

/-- **Where a number is compared, the two sides are compared as the numbers that they count as.** -/
theorem looselyEqual_iff_of_isNumber (h : x.IsNumber ∨ y.IsNumber) :
    x.looselyEqual y = .ok true ↔ ∃ m n, x.Counts m ∧ y.Counts n ∧ m.equal n = true := by
  have hnumber {x : Value} {n : Number} : x.looselyEqual (.number n) = .ok true ↔
      ∃ m k, x.Counts m ∧ (Value.number n).Counts k ∧ m.equal k = true := by
    rw [looselyEqual_number_iff]
    constructor
    · rintro ⟨m, hm, hequal⟩
      exact ⟨m, n, hm, .number n, hequal⟩
    · rintro ⟨m, _, hm, ⟨⟩, hequal⟩
      exact ⟨m, hm, hequal⟩
  rcases h with h | h
  · obtain ⟨n, rfl⟩ := isNumber_iff.mp h
    rw [looselyEqual_comm, hnumber]
    constructor
    · rintro ⟨m, k, hm, hk, hequal⟩
      exact ⟨k, m, hk, hm, Number.equal_comm m k ▸ hequal⟩
    · rintro ⟨k, m, hk, hm, hequal⟩
      exact ⟨m, k, hm, hk, Number.equal_comm k m ▸ hequal⟩
  · obtain ⟨n, rfl⟩ := isNumber_iff.mp h
    exact hnumber

/-- A chain of two comparisons, each with a number in it, carries over from end to end if there is a
number at an end. -/
theorem looselyEqual_of_isNumber (hends : x.IsNumber ∨ z.IsNumber)
    (hleft : x.IsNumber ∨ y.IsNumber) (hright : y.IsNumber ∨ z.IsNumber)
    (hxy : x.looselyEqual y = .ok true) (hyz : y.looselyEqual z = .ok true) :
    x.looselyEqual z = .ok true := by
  obtain ⟨m, n, hm, hn, hmn⟩ := (looselyEqual_iff_of_isNumber hleft).mp hxy
  obtain ⟨n', k, hn', hk, hnk⟩ := (looselyEqual_iff_of_isNumber hright).mp hyz
  obtain rfl := hn.unique hn'
  exact (looselyEqual_iff_of_isNumber hends).mpr ⟨m, k, hm, hk, Number.equal_trans hmn hnk⟩

/-- Without a number only equal values are loosely equal. -/
theorem eq_of_looselyEqual (hx : ¬ x.IsNumber) (hy : ¬ y.IsNumber)
    (h : x.looselyEqual y = .ok true) : x = y := by
  cases x with
  | number m => exact absurd rfl hx
  | bool a =>
      cases y with
      | bool b => rw [eq_of_beq (Except.ok.inj h)]
      | number n => exact absurd rfl hy
      | _ => exact absurd (Except.ok.inj h) Bool.false_ne_true
  | text s =>
      cases y with
      | text t => rw [eq_of_beq (Except.ok.inj h)]
      | number n => exact absurd rfl hy
      | _ => exact absurd (Except.ok.inj h) Bool.false_ne_true
  | _ => exact absurd (Except.ok.inj h) Bool.false_ne_true

/-- What is loosely equal to a number without being one is a text. -/
theorem exists_text_of_looselyEqual (hx : ¬ x.IsNumber) (hy : y.IsNumber)
    (h : x.looselyEqual y = .ok true) : ∃ s, x = .text s := by
  obtain ⟨m, -, hm, -, -⟩ := (looselyEqual_iff_of_isNumber (.inr hy)).mp h
  cases hm with
  | number => exact absurd rfl hx
  | text => exact ⟨_, rfl⟩

end Laws

/-- **Loose equality goes both ways, and carries on over a number to or from another number.** Where
a number is compared, the two sides are compared as the numbers that they count as. Of all chains of
two comparisons exactly those from a text over a number to a different text break. -/
theorem looselyEqual_laws :
    (∀ x y : Value, x.looselyEqual y = y.looselyEqual x) ∧
      (∀ x y z : Value, y.IsNumber → x.IsNumber ∨ z.IsNumber →
        x.looselyEqual y = .ok true → y.looselyEqual z = .ok true → x.looselyEqual z = .ok true) ∧
      (∀ x y : Value, x.IsNumber ∨ y.IsNumber →
        (x.looselyEqual y = .ok true ↔ ∃ m n, x.Counts m ∧ y.Counts n ∧ m.equal n = true)) ∧
      ∀ x y z : Value, x.looselyEqual y = .ok true → y.looselyEqual z = .ok true →
        (x.looselyEqual z = .ok true ↔
          ¬ ∃ s t n, x = .text s ∧ y = .number n ∧ z = .text t ∧ s ≠ t) := by
  refine ⟨looselyEqual_comm, ?_, fun _ _ => looselyEqual_iff_of_isNumber, ?_⟩
  · intro x y z hy hends
    exact looselyEqual_of_isNumber hends (.inr hy) (.inl hy)
  · intro x y z hxy hyz
    constructor
    · rintro hxz ⟨s, t, n, rfl, -, rfl, hne⟩
      exact hne (eq_of_beq (Except.ok.inj hxz))
    · intro hchain
      by_cases hy : y.IsNumber
      · by_cases hends : x.IsNumber ∨ z.IsNumber
        · exact looselyEqual_of_isNumber hends (.inr hy) (.inl hy) hxy hyz
        · -- both ends are texts, and they are not different
          obtain ⟨hx, hz⟩ := not_or.mp hends
          obtain ⟨s, rfl⟩ := exists_text_of_looselyEqual hx hy hxy
          rw [looselyEqual_comm] at hyz
          obtain ⟨t, rfl⟩ := exists_text_of_looselyEqual hz hy hyz
          obtain ⟨n, rfl⟩ := isNumber_iff.mp hy
          have hst : s = t := Decidable.byContradiction fun hne =>
            hchain ⟨s, t, n, rfl, rfl, rfl, hne⟩
          exact congrArg Except.ok (beq_iff_eq.mpr hst)
      · -- a number on one side only leaves the same value on the other
        by_cases hx : x.IsNumber
        · by_cases hz : z.IsNumber
          · exact looselyEqual_of_isNumber (.inl hx) (.inl hx) (.inr hz) hxy hyz
          · exact eq_of_looselyEqual hy hz hyz ▸ hxy
        · exact eq_of_looselyEqual hx hy hxy ▸ hyz

/-- A text with blanks around its number, an integer and a double are equal all around, but not so
another spelling of the same number. -/
theorem looselyEqual_laws_of_spellings :
    let x : Value := .text " -1.50e1\t"
    let y : Value := .number (.int (-15))
    let z : Value := .number (.double (.ofRatio true 15 1))
    let w : Value := .text "-15"
    x.looselyEqual y = .ok true ∧ y.looselyEqual z = .ok true ∧ y.looselyEqual w = .ok true ∧
      x.looselyEqual z = .ok true ∧ x.looselyEqual w = .ok false := by
  intro x y z w
  have hxy : x.looselyEqual y = .ok true := by decide +kernel
  have hyz : y.looselyEqual z = .ok true := by decide +kernel
  have hyw : y.looselyEqual w = .ok true := by decide +kernel
  obtain ⟨-, hcarry, -, hbreak⟩ := looselyEqual_laws
  refine ⟨hxy, hyz, hyw, hcarry x y z rfl (.inr rfl) hxy hyz, ?_⟩
  have hxw := (hbreak x y w hxy hyw).not.mpr (not_not.mpr ⟨_, _, _, rfl, rfl, rfl, by decide⟩)
  show Except.ok _ = _
  exact congrArg Except.ok (Bool.eq_false_iff.mpr fun heq => hxw (congrArg Except.ok heq))

end Eligibility.Value

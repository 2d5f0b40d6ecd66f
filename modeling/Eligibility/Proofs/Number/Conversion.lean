import Eligibility.Proofs.Number.Spelling
import Eligibility.Proofs.Number.Written
import Mathlib.Data.List.Induction

/-!
# Which numbers are read and written

An integer can be written if its magnitude is below `10 ^ maxDigits` (`isWritable_iff`), and so can
every double. What is written for a number is read again (`exists_numeral`), and what was read can
be written (`isWritable_of_read`). A text that passes the test for numbers is read, unless it is an
integer with too many digits (`Spelling.read_of_trimChars`).
-/

namespace Eligibility.Number

open Eligibility.Text

/-! ## The number of digits -/

/-- As many digits suffice for the numbers below a power of ten. -/
theorem length_digits_le_iff {n k : Nat} (hk : k ≠ 0) : (digits n).length ≤ k ↔ n < 10 ^ k := by
  induction k generalizing n with
  | zero => exact absurd rfl hk
  | succ k ih =>
      by_cases hn : n < 10
      · have hten : 10 ≤ 10 ^ (k + 1) := Nat.le_self_pow (Nat.succ_ne_zero k) 10
        simp only [digits_of_lt_ten hn, List.length_singleton]
        omega
      · have hdigits := digits_of_ten_le (Nat.le_of_not_lt hn)
        rw [hdigits, List.length_append, List.length_singleton, Nat.add_le_add_iff_right]
        by_cases hzero : k = 0
        · have hpos : 0 < (digits (n / 10)).length := List.length_pos_iff.mpr (digits_ne_nil _)
          subst hzero
          omega
        · rw [ih hzero, Nat.pow_succ, Nat.div_lt_iff_lt_mul (by decide)]

/-- An integer can be written if its magnitude is not too large. -/
theorem isWritable_iff {n : Int} : isWritable n = true ↔ n.natAbs < 10 ^ maxDigits := by
  have hmax : maxDigits ≠ 0 := by decide
  rw [isWritable, decide_eq_true_eq, length_digits_le_iff hmax]

theorem digitValue?_lt_ten {c : Char} {d : Nat} (h : digitValue? c = some d) : d < 10 := by
  have hdistance : ∀ (zeros : List Nat) (n d : Nat),
      distanceFromZero zeros n = some d → d < 10 := by
    intro zeros n d h
    induction zeros with
    | nil => cases h
    | cons base rest ih =>
        rw [distanceFromZero] at h
        split at h
        · cases h
        · split at h
          · obtain rfl := Option.some.inj h
            omega
          · exact ih h
  exact hdistance _ _ _ h

/-- A number is below the power of ten that its digits reach. -/
theorem ofDigits_lt {ds : List Nat} (h : ∀ d ∈ ds, d < 10) : ofDigits ds < 10 ^ ds.length := by
  induction ds using List.reverseRecOn with
  | nil => decide
  | append_singleton ds d ih =>
      have hd : d < 10 := h d (by simp)
      have hds := ih fun x hx => h x (List.mem_append_left _ hx)
      rw [ofDigits_concat, List.length_append, List.length_singleton, Nat.pow_succ]
      omega

/-! ## Reading -/

theorem overlong?_of_integerOf? {cs : List Char} {n : Int} (h : integerOf? cs = some n) :
    overlong? cs =
      if maxDigits < (dropMinus cs).length then some (dropMinus cs).length else none := by
  simp [overlong?, h]

theorem overlong?_of_not_integer {cs : List Char} (h : integerOf? cs = none) :
    overlong? cs = none := by
  simp [overlong?, h]

/-- What is read is the number that the text denotes. -/
theorem read_eq_ok_iff {s : String} {n : Number} :
    read s = .ok n ↔ overlong? (trimChars s.toList) = none ∧ ofText? s = some n := by
  unfold read
  cases overlong? (trimChars s.toList) with
  | some count => simp
  | none => cases ofText? s <;> simp

/-- The digits of an integer make up its text behind the minus. -/
theorem exists_of_integerOf? {cs : List Char} {n : Int} (h : integerOf? cs = some n) :
    (∀ c ∈ dropMinus cs, isDigit c = true) ∧
      n.natAbs = ofDigits ((dropMinus cs).filterMap digitValue?) := by
  obtain ⟨ds, hds, heq, -⟩ := exists_of_takeDigits (dropMinus cs)
  have htake : (takeDigits (dropMinus cs)).2 = [] ∧
      n.natAbs = ofDigits (takeDigits (dropMinus cs)).1 := by
    unfold integerOf? at h
    split at h
    · cases h
    · rename_i htaken
      rw [htaken]
      refine ⟨rfl, ?_⟩
      obtain rfl := Option.some.inj h
      split
      · rw [Int.natAbs_neg, Int.natAbs_natCast]
      · rw [Int.natAbs_natCast]
    · cases h
  rw [htake.1, List.append_nil] at heq
  rw [htake.2, heq, takeDigits_of_forall hds]
  exact ⟨hds, rfl⟩

/-- Only an integer has too many digits, and the digits are those behind its minus. -/
theorem digits_of_read_error {s : String} {count : Nat}
    (h : read s = .error (.tooManyDigits count)) :
    (∀ c ∈ dropMinus (trimChars s.toList), isDigit c = true) ∧
      count = (dropMinus (trimChars s.toList)).length := by
  unfold read at h
  cases hinteger : integerOf? (trimChars s.toList) with
  | some n =>
      refine ⟨(exists_of_integerOf? hinteger).1, ?_⟩
      rw [overlong?_of_integerOf? hinteger] at h
      split at h
      · rename_i heq
        obtain rfl := ConversionError.tooManyDigits.inj (Except.error.inj h)
        split at heq
        · exact (Option.some.inj heq).symm
        · cases heq
      · cases h
      · cases h
  | none =>
      rw [overlong?_of_not_integer hinteger] at h
      cases hdenoted : ofText? s <;> rw [hdenoted] at h <;> cases h

/-- An integer that was read can be written. -/
theorem isWritable_of_read {s : String} {n : Int} (h : read s = .ok (.int n)) :
    isWritable n = true := by
  obtain ⟨hshort, hdenoted⟩ := read_eq_ok_iff.mp h
  have hinteger : integerOf? (trimChars s.toList) = some n := by
    simp only [ofText?] at hdenoted
    split at hdenoted
    · rename_i m hm
      rw [hm, Number.int.inj (Option.some.inj hdenoted)]
    · obtain ⟨x, -, hx⟩ := Option.map_eq_some_iff.mp hdenoted
      cases hx
  obtain ⟨hdigits, hvalue⟩ := exists_of_integerOf? hinteger
  have hlength : (dropMinus (trimChars s.toList)).length ≤ maxDigits := by
    rw [overlong?_of_integerOf? hinteger] at hshort
    split at hshort
    · cases hshort
    · omega
  have hbelow : n.natAbs < 10 ^ (dropMinus (trimChars s.toList)).length := by
    rw [hvalue, ← Numeral.length_filterMap_digitValue? hdigits]
    refine ofDigits_lt fun d hd => ?_
    obtain ⟨c, -, hc⟩ := List.mem_filterMap.mp hd
    exact digitValue?_lt_ten hc
  exact isWritable_iff.mpr (Nat.lt_of_lt_of_le hbelow (Nat.pow_le_pow_right (by decide) hlength))

namespace Numeral

variable (m : Numeral)

/-- A numeral is overlong if it has too many digits and no fraction. -/
theorem overlong?_chars : overlong? m.chars =
    if m.fraction = [] ∧ maxDigits < m.whole.length then some m.whole.length else none := by
  by_cases hfraction : m.fraction = []
  · rw [overlong?_of_integerOf? (m.integerOf?_chars hfraction), dropMinus_chars]
    simp [unsigned, hfraction]
  · obtain ⟨d, ds, hds⟩ := List.exists_cons_of_ne_nil m.whole_filterMap_ne_nil
    have hunsigned : m.unsigned = m.whole ++ '.' :: m.fraction := by simp [unsigned, hfraction]
    have htake := m.takeDigits_whole (startsWithDigit_point m.fraction)
    have hinteger : integerOf? m.chars = none := by
      simp only [integerOf?, dropMinus_chars, hunsigned, htake, hds]
    rw [overlong?_of_not_integer hinteger, if_neg fun h => hfraction h.1]

/-- A numeral is read as the number that it denotes, unless it has too many digits. -/
theorem read_chars {n : Number} (h : ofText? (String.ofList m.chars) = some n) :
    read (String.ofList m.chars) =
      if m.fraction = [] ∧ maxDigits < m.whole.length then .error (.tooManyDigits m.whole.length)
      else .ok n := by
  rw [read, String.toList_ofList, trimChars_chars, overlong?_chars, h]
  by_cases hlong : m.fraction = [] ∧ maxDigits < m.whole.length
  · rw [if_pos hlong, if_pos hlong]
  · rw [if_neg hlong, if_neg hlong]

end Numeral

/-- What is written for an integer is read as the integer, unless it has too many digits. -/
theorem read_integerChars (n : Int) : read (String.ofList (integerChars n)) =
    if isWritable n then .ok (.int n) else .error (.tooManyDigits (digits n.natAbs).length) := by
  rw [← Numeral.chars_ofInt, Numeral.read_chars _ (Numeral.ofText?_ofInt n)]
  have hlength : (Numeral.ofInt n).whole.length = (digits n.natAbs).length := List.length_map _
  rw [hlength]
  by_cases hwritable : (digits n.natAbs).length ≤ maxDigits
  · have htrue : isWritable n = true := decide_eq_true hwritable
    rw [if_neg (by omega), if_pos htrue]
  · have hfalse : isWritable n = false := decide_eq_false hwritable
    rw [if_pos ⟨rfl, by omega⟩, hfalse, if_neg Bool.false_ne_true]

/-- Every number but the infinities and not-a-number is laid out as one numeral, which denotes it
and which is read if the number can be written. -/
theorem exists_numeral {n : Number} (h : n.isFinite = true) :
    ∃ m : Numeral, (Literal.number n).chars = m.chars ∧ ofText? (String.ofList m.chars) = some n ∧
      ((Literal.number n).isWritable = true → read (String.ofList m.chars) = .ok n) := by
  match n, h with
  | .int n, _ =>
      refine ⟨.ofInt n, (Numeral.chars_ofInt n).symm, Numeral.ofText?_ofInt n, fun hwritable => ?_⟩
      have hshort : isWritable n = true := hwritable
      rw [Numeral.chars_ofInt, read_integerChars, if_pos hshort]
  | .double (.finite negative rank), _ =>
      have hdenoted := Numeral.ofText?_ofDecimal_shortest negative rank
      refine ⟨.ofDecimal negative (shortest rank), (Numeral.chars_ofDecimal _ _).symm, hdenoted,
        fun _ => ?_⟩
      rw [Numeral.read_chars _ hdenoted, if_neg fun h => Numeral.fractionChars_ne_nil _ h.1]

namespace Spelling

variable (m : Spelling)

/-- The spelling is that of an integer with too many digits. -/
def IsOverlong : Prop :=
  m.fraction = none ∧ m.exponent = none ∧ maxDigits < m.whole.length

instance : Decidable m.IsOverlong :=
  inferInstanceAs (Decidable (_ ∧ _ ∧ _))

theorem overlong?_chars :
    overlong? m.chars = if m.IsOverlong then some m.whole.length else none := by
  by_cases hinteger : m.fraction.isNone ∧ m.exponent.isNone
  · have hread := m.integerOf?_chars
    rw [if_pos hinteger] at hread
    obtain ⟨hfraction, hexponent⟩ := hinteger
    rw [Option.isNone_iff_eq_none] at hfraction hexponent
    rw [overlong?_of_integerOf? hread, dropMinus_chars]
    simp [IsOverlong, unsigned, pointChars, powerChars, hfraction, hexponent]
  · have hread := m.integerOf?_chars
    rw [if_neg hinteger] at hread
    rw [overlong?_of_not_integer hread, if_neg fun h => ?_]
    exact hinteger ⟨by simp [h.1], by simp [h.2.1]⟩

/-- **A spelling is read as the number that it denotes**, whatever blanks stand around it, unless it
is an integer with too many digits. -/
theorem read_of_trimChars {s : String} (h : trimChars s.toList = m.chars) : read s =
    if m.IsOverlong then .error (.tooManyDigits m.whole.length) else .ok m.number := by
  rw [read, h, overlong?_chars, m.ofText?_of_trimChars h]
  by_cases hlong : m.IsOverlong
  · rw [if_pos hlong, if_pos hlong]
  · rw [if_neg hlong, if_neg hlong]

end Spelling

/-- The text is an integer with so many digits, and they are too many. -/
def IsOverlong (s : String) (count : Nat) : Prop :=
  ∃ m : Spelling, trimChars s.toList = m.chars ∧ m.IsOverlong ∧ m.whole.length = count

/-- What passes the test for numbers fails to be read only if it is an integer with too many
digits. -/
theorem read_eq_error_iff {s : String} (h : isNumericText s = true) {e : ConversionError} :
    read s = .error e ↔ ∃ count, IsOverlong s count ∧ e = .tooManyDigits count := by
  constructor
  · intro hread
    obtain ⟨m, hm⟩ := exists_trimChars_eq h
    rw [m.read_of_trimChars hm] at hread
    split at hread
    · rename_i hlong
      exact ⟨_, ⟨m, hm, hlong, rfl⟩, (Except.error.inj hread).symm⟩
    · cases hread
  · rintro ⟨_, ⟨m, hm, hlong, rfl⟩, rfl⟩
    rw [m.read_of_trimChars hm, if_pos hlong]

theorem IsOverlong.isNumericText {s : String} {count : Nat} (h : IsOverlong s count) :
    Number.isNumericText s = true := by
  obtain ⟨m, hm, -⟩ := h
  exact m.isNumericText_of_trimChars hm

/-- What passes the test for numbers is read, unless it is an integer with too many digits. -/
theorem read_of_isNumericText {s : String} (h : isNumericText s = true) :
    (∃ n, read s = .ok n) ∨
      ∃ count, maxDigits < count ∧ read s = .error (.tooManyDigits count) := by
  obtain ⟨m, hm⟩ := exists_trimChars_eq h
  have hread := m.read_of_trimChars hm
  by_cases hlong : m.IsOverlong
  · exact .inr ⟨m.whole.length, hlong.2.2, by rw [hread, if_pos hlong]⟩
  · exact .inl ⟨m.number, by rw [hread, if_neg hlong]⟩

namespace Numeral

theorem isDigit_of_mem_nil : ∀ c ∈ ([] : List Char), isDigit c = true := by simp

/-- The numeral of a number of ones. -/
def ones (k : Nat) (hk : k ≠ 0) : Numeral where
  negative := false
  whole := List.replicate k '1'
  fraction := []
  whole_ne_nil h := hk ((List.replicate_eq_nil_iff '1').mp h)
  isDigit_of_mem_whole := by
    intro c hc
    rw [List.eq_of_mem_replicate hc]
    decide
  isDigit_of_mem_fraction := isDigit_of_mem_nil

theorem isNumericText_ones {k : Nat} (hk : k ≠ 0) :
    isNumericText (String.ofList (List.replicate k '1')) = true :=
  (ones k hk).isNumericText_chars

/-- Too many ones are not read. -/
theorem read_ones {k : Nat} (hk : maxDigits < k) :
    read (String.ofList (List.replicate k '1')) = .error (.tooManyDigits k) := by
  have hzero : k ≠ 0 := Nat.ne_zero_of_lt hk
  have hlength : (ones k hzero).whole.length = k := List.length_replicate
  have htrim : trimChars (List.replicate k '1') = List.replicate k '1' :=
    (ones k hzero).trimChars_chars
  have hlong : overlong? (List.replicate k '1') = some k := by
    refine (ones k hzero).overlong?_chars.trans ?_
    rw [hlength, if_pos ⟨rfl, hk⟩]
  rw [read, String.toList_ofList, htrim, hlong]

end Numeral

end Eligibility.Number

import Eligibility.Number.Layout
import Eligibility.Proofs.Number.Reading

/-!
# Numerals

The numbers of a rule are written plainly: an optional minus, digits, and a point with more
digits behind it if there is a fraction. A `Numeral` is such a text with the proof that it is
one, so that what reads a numeral, what cuts one out of a rule and what writes one can be
compared without taking its characters apart again.

A numeral passes the test for numbers (`Numeral.isNumericText_chars`); without a fraction it
is an integer (`integerOf?_chars`) and with one as the double nearest to its decimal
(`ofText?_of_fraction`).
-/

namespace Eligibility

open Text

/-! ## Characters of numerals are not trimmed -/

/-- The code points of a table, one by one. -/
def Text.RangeTable.points (table : RangeTable) : List Nat :=
  table.flatMap fun range => List.range' range.1 (range.2 + 1 - range.1)

theorem Text.RangeTable.mem_points_of_covers {table : RangeTable} {n : Nat}
    (h : table.covers n = true) : n ∈ table.points := by
  unfold points
  induction table with
  | nil => exact absurd h Bool.false_ne_true
  | cons range rest ih =>
      obtain ⟨first, last⟩ := range
      rw [covers] at h
      rw [List.flatMap_cons, List.mem_append]
      split at h
      · exact absurd h Bool.false_ne_true
      · split at h
        · exact .inl (List.mem_range'_1.mpr (by omega))
        · exact .inr (ih h)

/-- No digit of any script is blank. -/
theorem Text.isBlank_of_isDigit {c : Char} (h : isDigit c = true) : isBlank c = false := by
  rw [Bool.eq_false_iff]
  intro hblank
  have hpoints : ∀ n ∈ RangeTable.points blankTable, distanceFromZero zeroDigits n = none := by
    decide
  have hnone := hpoints c.toNat (RangeTable.mem_points_of_covers hblank)
  simp [isDigit, digitValue?, hnone] at h

/-- A text without blanks is its own trimming. -/
theorem Text.trimChars_of_not_isBlank {cs : List Char} (h : ∀ c ∈ cs, isBlank c = false) :
    trimChars cs = cs := by
  have hdrop : ∀ cs : List Char, (∀ c ∈ cs, isBlank c = false) → cs.dropWhile isBlank = cs := by
    intro cs hcs
    cases cs with
    | nil => rfl
    | cons c cs => rw [List.dropWhile_cons_of_neg (by simp [hcs c List.mem_cons_self])]
  have hrev : ∀ c ∈ cs.reverse, isBlank c = false := fun c hc => h c (List.mem_reverse.mp hc)
  rw [trimChars, trimBy, hdrop cs h, hdrop cs.reverse hrev, List.reverse_reverse]

namespace Number

/-- A minus that was put in front of a text is the one that is dropped. -/
theorem dropMinus_signed {c : Char} (hc : c ≠ '-') {negative : Bool} (cs : List Char) :
    dropMinus (Binary64.signed negative (c :: cs)) = c :: cs := by
  cases negative with
  | true => rfl
  | false =>
      rw [Binary64.signed, if_neg Bool.false_ne_true, dropMinus]
      intro cs' heq
      exact hc (List.cons.inj heq).1

/-- The sign that is taken is the minus that was put in front of a text. -/
theorem takeSign_signed {c : Char} (hc : c ≠ '-') {negative : Bool} (cs : List Char) :
    (takeSign (Binary64.signed negative (c :: cs))).1 = negative := by
  cases negative with
  | true => rfl
  | false =>
      rw [Binary64.signed, if_neg Bool.false_ne_true]
      unfold takeSign
      split
      · exact absurd (List.cons.inj ‹_›).1 hc
      · rfl
      · rfl

/-! ## Numerals -/

/-- A number written plainly. -/
structure Numeral where
  negative : Bool
  whole : List Char
  fraction : List Char
  whole_ne_nil : whole ≠ []
  isDigit_of_mem_whole : ∀ c ∈ whole, isDigit c = true
  isDigit_of_mem_fraction : ∀ c ∈ fraction, isDigit c = true

namespace Numeral

variable (m : Numeral)

/-- The numeral without its sign. The point stands only in front of a fraction. -/
def unsigned : List Char :=
  if m.fraction.isEmpty then m.whole else m.whole ++ '.' :: m.fraction

/-- The characters of the numeral. -/
def chars : List Char := Binary64.signed m.negative m.unsigned

/-- The decimal that the numeral denotes, apart from its sign. -/
def decimal : Decimal :=
  ⟨ofDigits ((m.whole ++ m.fraction).filterMap digitValue?), -m.fraction.length⟩

/-- A numeral without its sign begins with a digit. -/
theorem exists_unsigned_eq : ∃ c cs, m.unsigned = c :: cs ∧ isDigit c = true := by
  obtain ⟨c, cs, hwhole⟩ := List.exists_cons_of_ne_nil m.whole_ne_nil
  have hc : isDigit c = true := m.isDigit_of_mem_whole c (by simp [hwhole])
  unfold unsigned
  split
  · exact ⟨c, cs, hwhole, hc⟩
  · exact ⟨c, cs ++ '.' :: m.fraction, by simp [hwhole], hc⟩

theorem chars_ne_nil : m.chars ≠ [] := by
  obtain ⟨c, cs, hunsigned, _⟩ := m.exists_unsigned_eq
  rw [chars, hunsigned, Binary64.signed]
  split <;> simp

theorem ne_minus_of_isDigit {c : Char} (h : isDigit c = true) : c ≠ '-' := by
  rintro rfl
  exact absurd h (by decide)

theorem dropMinus_chars : dropMinus m.chars = m.unsigned := by
  obtain ⟨c, cs, hunsigned, hc⟩ := m.exists_unsigned_eq
  rw [chars, hunsigned]
  exact dropMinus_signed (ne_minus_of_isDigit hc) cs

/-- Whatever stands in a numeral is a digit, the point or the minus. -/
theorem mem_chars {c : Char} (h : c ∈ m.chars) : isDigit c = true ∨ c = '.' ∨ c = '-' := by
  have hunsigned : ∀ c ∈ m.unsigned, isDigit c = true ∨ c = '.' ∨ c = '-' := by
    intro c hc
    unfold unsigned at hc
    split at hc
    · exact .inl (m.isDigit_of_mem_whole c hc)
    · rcases List.mem_append.mp hc with hc | hc
      · exact .inl (m.isDigit_of_mem_whole c hc)
      · rcases List.mem_cons.mp hc with hc | hc
        · exact .inr (.inl hc)
        · exact .inl (m.isDigit_of_mem_fraction c hc)
  unfold chars Binary64.signed at h
  split at h
  · rcases List.mem_cons.mp h with h | h
    · exact .inr (.inr h)
    · exact hunsigned c h
  · exact hunsigned c h

theorem trimChars_chars : trimChars m.chars = m.chars := by
  apply trimChars_of_not_isBlank
  intro c hc
  rcases m.mem_chars hc with hdigit | rfl | rfl
  · exact isBlank_of_isDigit hdigit
  · decide
  · decide

/-! ## Reading numerals -/

/-- Digits of any script, each with its value. -/
theorem length_filterMap_digitValue? {cs : List Char} (h : ∀ c ∈ cs, isDigit c = true) :
    (cs.filterMap digitValue?).length = cs.length := by
  induction cs with
  | nil => rfl
  | cons c cs ih =>
      obtain ⟨d, hd⟩ := Option.isSome_iff_exists.mp (h c List.mem_cons_self)
      rw [List.filterMap_cons_some hd, List.length_cons, List.length_cons,
        ih fun x hx => h x (List.mem_cons_of_mem _ hx)]

/-- No digit stands where a fraction begins. -/
theorem startsWithDigit_point (cs : List Char) : startsWithDigit ('.' :: cs) = false := by
  show isDigit '.' = false
  decide

theorem takeDigits_whole {rest : List Char} (hrest : startsWithDigit rest = false) :
    takeDigits (m.whole ++ rest) = (m.whole.filterMap digitValue?, rest) :=
  takeDigits_append m.isDigit_of_mem_whole hrest

theorem takeDigits_fraction : takeDigits m.fraction = (m.fraction.filterMap digitValue?, []) :=
  takeDigits_of_forall m.isDigit_of_mem_fraction

theorem filterMap_digitValue?_eq_nil_iff {cs : List Char} (h : ∀ c ∈ cs, isDigit c = true) :
    cs.filterMap digitValue? = [] ↔ cs = [] := by
  rw [← List.length_eq_zero_iff, ← List.length_eq_zero_iff, length_filterMap_digitValue? h]

theorem whole_filterMap_ne_nil : m.whole.filterMap digitValue? ≠ [] :=
  mt (filterMap_digitValue?_eq_nil_iff m.isDigit_of_mem_whole).mp m.whole_ne_nil

/-- A numeral reads as the decimal that it denotes. -/
theorem decimalOf?_unsigned : decimalOf? m.unsigned = some m.decimal := by
  have hwhole : (m.whole.filterMap digitValue?).isEmpty = false := by
    simpa using m.whole_filterMap_ne_nil
  unfold unsigned
  split
  · rename_i hfraction
    rw [List.isEmpty_iff] at hfraction
    have htake := takeDigits_of_forall m.isDigit_of_mem_whole
    simp [decimalOf?, htake, hwhole, exponentOf?, decimal, hfraction]
  · have htake := m.takeDigits_whole (startsWithDigit_point m.fraction)
    have hlength := length_filterMap_digitValue? m.isDigit_of_mem_fraction
    simp [decimalOf?, htake, m.takeDigits_fraction, hwhole, exponentOf?, decimal, hlength]

/-- A numeral passes the test for numbers. -/
theorem isNumericText_chars : isNumericText (String.ofList m.chars) = true := by
  rw [isNumericText, String.toList_ofList, trimChars_chars, dropMinus_chars, decimalOf?_unsigned]
  rfl

theorem head?_chars : m.chars.head? = some '-' ↔ m.negative = true := by
  obtain ⟨c, cs, hunsigned, hc⟩ := m.exists_unsigned_eq
  rw [chars, hunsigned, Binary64.signed]
  cases m.negative with
  | true => simp
  | false => simpa using ne_minus_of_isDigit hc

/-- Without a fraction a numeral is an integer. -/
theorem integerOf?_chars (hfraction : m.fraction = []) :
    integerOf? m.chars = some (if m.negative then
      -(ofDigits (m.whole.filterMap digitValue?) : Int)
      else ofDigits (m.whole.filterMap digitValue?)) := by
  obtain ⟨d, ds, hds⟩ := List.exists_cons_of_ne_nil m.whole_filterMap_ne_nil
  have htake : takeDigits m.unsigned = (d :: ds, []) := by
    have hwhole := takeDigits_of_forall m.isDigit_of_mem_whole
    rw [hds] at hwhole
    simpa [unsigned, hfraction] using hwhole
  simp only [integerOf?, dropMinus_chars, htake, head?_chars, hds]

/-- With a fraction a numeral reads as the double nearest to its decimal. -/
theorem ofText?_of_fraction (hfraction : m.fraction ≠ []) :
    ofText? (String.ofList m.chars) = some (.double (m.decimal.toBinary64 m.negative)) := by
  obtain ⟨d, ds, hds⟩ := List.exists_cons_of_ne_nil m.whole_filterMap_ne_nil
  have hunsigned : m.unsigned = m.whole ++ '.' :: m.fraction := by
    simp [unsigned, hfraction]
  have hint : integerOf? m.chars = none := by
    have htake := m.takeDigits_whole (startsWithDigit_point m.fraction)
    simp only [integerOf?, dropMinus_chars, hunsigned, htake, hds]
  have hdouble : doubleOf? m.chars = some (m.decimal.toBinary64 m.negative) := by
    have hsign : (takeSign m.chars).1 = m.negative := by
      obtain ⟨c, cs, hcs, hc⟩ := m.exists_unsigned_eq
      rw [chars, hcs]
      exact takeSign_signed (ne_minus_of_isDigit hc) cs
    rw [← hsign]
    apply doubleOf?_of_decimalOf?
    rw [dropMinus_chars, decimalOf?_unsigned]
  simp only [ofText?, String.toList_ofList, trimChars_chars, hint, hdouble]
  rfl

end Numeral

end Number

end Eligibility

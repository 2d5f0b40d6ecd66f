import Eligibility.Proofs.Document.Numbers
import Eligibility.Proofs.Rule.Scanning
import Mathlib.Algebra.Order.Field.Basic
import Mathlib.Algebra.Order.Field.Rat

/-!
# Number literals are exact

A double has two written forms. Messages and documents have it in positional or in scientific
notation, whichever suits its size; a rule has it in positional notation always, since there is no
other notation in rules. Between the two the digits are laid out anew around the point, and the
power of ten is turned into zeros. That loses nothing, however large or small the power is: both
forms denote the same rational number (`denoted?_positional`, `denoted?_scientific`), to be told
apart from the double that either is rounded to when it is read.

The literal of a number is also one lexeme wherever a rule may have it (`Token.Spells`), so that a
rule with it asks for this number and for nothing else (`Literal.numbers_written_exactly`). Only
integers with too many digits have no literal.
-/

namespace Eligibility

open Number

namespace Number

/-! ## Exact values of texts -/

/-- The rational number that a decimal is. -/
def Decimal.value (d : Decimal) : ℚ := d.coefficient * 10 ^ d.exponent

/-- Zeros behind a coefficient raise the exponent. -/
theorem Decimal.value_mul_pow (coefficient zeros : Nat) (exponent : Int) :
    value ⟨coefficient * 10 ^ zeros, exponent⟩ = value ⟨coefficient, exponent + zeros⟩ := by
  have hpower : (10 : ℚ) ^ (exponent + zeros) = 10 ^ exponent * 10 ^ zeros := by
    rw [zpow_add₀ (by norm_num), zpow_natCast]
  rw [value, value, hpower, Nat.cast_mul, Nat.cast_pow, Nat.cast_ofNat, mul_assoc,
    mul_comm (10 ^ zeros)]

/-- Laying digits out around the point keeps the value of a decimal. -/
theorem Numeral.value_ofDecimal (negative : Bool) (d : Decimal) :
    (ofDecimal negative d).decimal.value = d.value := by
  rw [decimal_ofDecimal]
  split
  · -- the power of ten stands as zeros behind the digits, and one more zero behind the point
    have hexponent : (-1 : Int) + (d.exponent.toNat + 1 : Nat) = d.exponent := by omega
    rw [Nat.mul_assoc, ← Nat.pow_succ, Decimal.value_mul_pow, hexponent]
  · rfl

/-- The rational number that a text denotes by its digits, its point, its power of ten and its
minus. Nothing is rounded. -/
def denoted? (cs : List Char) : Option ℚ :=
  (decimalOf? (dropMinus cs)).map fun d => if cs.head? = some '-' then -d.value else d.value

theorem Spelling.denoted?_chars (m : Spelling) :
    denoted? m.chars = some (if m.negative then -m.decimal.value else m.decimal.value) := by
  simp only [denoted?, m.dropMinus_chars, m.decimalOf?_unsigned, m.head?_chars, Option.map_some]

section

variable (negative : Bool) (d : Decimal)

/-- The positional notation of a decimal denotes it, wherever the point comes to stand. -/
theorem denoted?_positional : denoted? (Binary64.signed negative d.positional) =
    some (if negative then -d.value else d.value) := by
  have hdenoted := (Numeral.ofDecimal negative d).toSpelling.denoted?_chars
  rw [Numeral.chars_toSpelling, Numeral.chars_ofDecimal, Numeral.decimal_toSpelling,
    Numeral.value_ofDecimal] at hdenoted
  exact hdenoted

/-- The scientific notation of a decimal denotes it, whatever its power of ten is. -/
theorem denoted?_scientific : denoted? (Binary64.signed negative d.scientific) =
    some (if negative then -d.value else d.value) := by
  have hdenoted := (Spelling.scientific negative d).denoted?_chars
  rw [Spelling.chars_scientific, Spelling.decimal_scientific] at hdenoted
  exact hdenoted

theorem denoted?_general : denoted? (Binary64.signed negative d.general) =
    some (if negative then -d.value else d.value) := by
  rw [Decimal.general]
  split
  · exact denoted?_positional negative d
  · exact denoted?_scientific negative d

end

/-- The positional notation of a decimal has digits on both sides of a point, and nothing else. -/
theorem exists_positional_eq (d : Decimal) : ∃ whole fraction,
    d.positional = whole ++ '.' :: fraction ∧ whole ≠ [] ∧ fraction ≠ [] ∧
      ∀ c ∈ whole ++ fraction, Document.isPlainDigit c = true := by
  refine ⟨Numeral.wholeChars d, Numeral.fractionChars d, Numeral.positional_eq d,
    Numeral.wholeChars_ne_nil d, Numeral.fractionChars_ne_nil d, ?_⟩
  intro c hc
  rcases List.mem_append.mp hc with hc | hc
  · exact Document.isPlainDigit_of_mem_or_zero (Numeral.mem_wholeChars hc)
  · exact Document.isPlainDigit_of_mem_or_zero (Numeral.mem_fractionChars hc)

end Number

/-! ## Literals in rules -/

/-- The text is one number token, by itself and in front of a blank or a closing parenthesis,
wherever in a rule it stands, and the token is read as the number. -/
structure Token.Spells (cs : List Char) (n : Number) : Prop where
  alone : scan (String.ofList cs) = [⟨.number, String.ofList cs, 0⟩]
  followed : ∀ position next rest, next = ' ' ∨ next = ')' →
    scanFrom position (cs ++ next :: rest) =
      ⟨.number, String.ofList cs, position⟩ :: scanFrom (position + cs.length) (next :: rest)
  reads : Number.read (String.ofList cs) = .ok n

/-- A numeral spells the number that it is read as. -/
theorem Token.spells_of_numeral {m : Numeral} {n : Number}
    (hread : Number.read (String.ofList m.chars) = .ok n) : Spells m.chars n where
  alone := by rw [scan, String.toList_ofList, (IsLexeme.numeral m).scanFrom_eq]
  followed position next rest hnext := by
    have hboundary : Boundary (next :: rest) := by simpa [Boundary] using hnext
    exact scanFrom_lexeme (lexeme?_numeral m hboundary) position
  reads := hread

theorem Literal.spells_of_isWritable {n : Number} (hfinite : n.isFinite = true)
    (hwritable : (Literal.number n).isWritable = true) :
    Token.Spells (Literal.number n).chars n := by
  obtain ⟨m, hchars, -, hread⟩ := exists_numeral hfinite
  rw [hchars]
  exact Token.spells_of_numeral (hread hwritable)

theorem Literal.write_of_isWritable {v : Literal} (h : v.isWritable = true) :
    v.write = .ok v.chars :=
  if_pos h

/-- **Numbers are written exactly, and each as one literal.** A finite double of any size is written
with a minus if it is negative, digits, a point and digits. What is written denotes the same
rational number as the general text of the double, and it is one token that is read as the double
again, zero with its sign. An integer is one token too, which is read as the integer, as long as its
magnitude is below `10 ^ maxDigits`; from there on it is not written. -/
theorem Literal.numbers_written_exactly (negative : Bool) (rank : Fin magnitudeCount) (n : Int) :
    let x : Binary64 := .finite negative rank
    (∃ written, (Literal.number (.double x)).write = .ok written ∧
      (∃ whole fraction, written = Binary64.signed negative (whole ++ '.' :: fraction) ∧
        whole ≠ [] ∧ fraction ≠ [] ∧ ∀ c ∈ whole ++ fraction, Document.isPlainDigit c = true) ∧
      (∃ q, denoted? written = some q ∧ denoted? x.text.toList = some q) ∧
      Token.Spells written (.double x)) ∧
    (n.natAbs < 10 ^ maxDigits → ∃ written, (Literal.number (.int n)).write = .ok written ∧
      Token.Spells written (.int n)) ∧
    (10 ^ maxDigits ≤ n.natAbs → (Literal.number (.int n)).write = .error .tooLong) := by
  intro x
  refine ⟨?_, fun hsmall => ?_, fun hlarge => ?_⟩
  · have hwritable : (Literal.number (.double x)).isWritable = true := rfl
    refine ⟨_, Literal.write_of_isWritable hwritable, ?_⟩
    -- both forms lay out the shortest decimal
    have hwritten : (Literal.number (.double x)).chars =
        Binary64.signed negative (shortest rank).positional := rfl
    have htext : x.text.toList = Binary64.signed negative (shortest rank).general :=
      String.toList_ofList
    obtain ⟨whole, fraction, hpositional, hparts⟩ := exists_positional_eq (shortest rank)
    have hdenoted := denoted?_positional negative (shortest rank)
    have hgeneral := denoted?_general negative (shortest rank)
    rw [← hwritten] at hdenoted
    rw [← htext] at hgeneral
    rw [hpositional] at hwritten
    exact ⟨⟨whole, fraction, hwritten, hparts⟩, ⟨_, hdenoted, hgeneral⟩,
      Literal.spells_of_isWritable rfl hwritable⟩
  · have hwritable : (Literal.number (.int n)).isWritable = true := isWritable_iff.mpr hsmall
    exact ⟨_, Literal.write_of_isWritable hwritable, Literal.spells_of_isWritable rfl hwritable⟩
  · exact if_neg fun hwritable => Nat.not_lt.mpr hlarge (isWritable_iff.mp hwritable)

/-- The least integer with too many digits is not written. -/
theorem Literal.not_written_of_long :
    (Literal.number (.int (10 ^ maxDigits : Nat))).write = .error .tooLong := by
  refine if_neg fun hwritable => ?_
  have hsmall : ((10 ^ maxDigits : Nat) : Int).natAbs < 10 ^ maxDigits :=
    isWritable_iff.mp hwritable
  rw [Int.natAbs_natCast] at hsmall
  exact Nat.lt_irrefl _ hsmall

/-- Below `10 ^ -4` the two forms differ. -/
example : (Binary64.ofRatio true 1 100000).text = "-1e-05" ∧
    (Literal.number (.double (.ofRatio true 1 100000))).chars = "-0.00001".toList := by
  decide +kernel

end Eligibility

import Eligibility.Proofs.Number.Nearest
import Eligibility.Proofs.Number.Numeral
import Eligibility.Rule.Printer

/-!
# Numbers are written as numerals

Every integer and every finite double is laid out in a rule as one numeral, which denotes the
number itself (`Numeral.ofText?_ofInt`, `Numeral.ofText?_ofDecimal_shortest`). For a double that
takes three steps: its shortest decimal reads back to it, laying the digits out around the point
changes no value (`Numeral.rank_ofDecimal`), and the sign is kept apart from both.
-/

namespace Eligibility.Number

open Text

/-! ## Digits -/

theorem digitsOnto_eq_append (n : Nat) (written : List Nat) :
    digitsOnto n written = digits n ++ written := by
  induction n using Nat.strongRecOn generalizing written with
  | ind n ih =>
      unfold digits
      rw [digitsOnto, digitsOnto.eq_def n []]
      split
      · rfl
      · have hlt : n / 10 < n := Nat.div_lt_self (by omega) (by omega)
        rw [ih _ hlt, ih _ hlt [n % 10], List.append_assoc, List.singleton_append]

/-- The last digit is the remainder by ten. -/
theorem digits_of_ten_le {n : Nat} (h : 10 ≤ n) : digits n = digits (n / 10) ++ [n % 10] := by
  rw [digits, digitsOnto, if_neg (by omega), digitsOnto_eq_append]

theorem digits_of_lt_ten {n : Nat} (h : n < 10) : digits n = [n] := by
  rw [digits, digitsOnto, if_pos h]

theorem digits_ne_nil (n : Nat) : digits n ≠ [] := by
  by_cases h : n < 10
  · simp [digits_of_lt_ten h]
  · simp [digits_of_ten_le (Nat.le_of_not_lt h)]

theorem lt_ten_of_mem_digits {n d : Nat} (h : d ∈ digits n) : d < 10 := by
  induction n using Nat.strongRecOn with
  | ind n ih =>
      by_cases hn : n < 10
      · rw [digits_of_lt_ten hn, List.mem_singleton] at h
        omega
      · rw [digits_of_ten_le (Nat.le_of_not_lt hn), List.mem_append, List.mem_singleton] at h
        rcases h with h | h
        · exact ih _ (Nat.div_lt_self (by omega) (by omega)) h
        · omega

theorem ofDigits_concat (ds : List Nat) (d : Nat) :
    ofDigits (ds ++ [d]) = 10 * ofDigits ds + d := by
  simp [ofDigits]

/-- Zeros behind the digits are powers of ten. -/
theorem ofDigits_append_zeros (ds : List Nat) (k : Nat) :
    ofDigits (ds ++ List.replicate k 0) = ofDigits ds * 10 ^ k := by
  induction k with
  | zero => simp
  | succ k ih =>
      rw [List.replicate_succ', ← List.append_assoc, ofDigits_concat, ih, Nat.pow_succ, Nat.add_zero,
        Nat.mul_comm 10, Nat.mul_assoc]

/-- Zeros in front of the digits count for nothing. -/
theorem ofDigits_zeros_append (k : Nat) (ds : List Nat) :
    ofDigits (List.replicate k 0 ++ ds) = ofDigits ds := by
  induction k with
  | zero => rfl
  | succ k ih => simpa [ofDigits, List.replicate_succ] using ih

/-- The digits of a number denote it. -/
theorem ofDigits_digits (n : Nat) : ofDigits (digits n) = n := by
  induction n using Nat.strongRecOn with
  | ind n ih =>
      by_cases hn : n < 10
      · simp [digits_of_lt_ten hn, ofDigits]
      · rw [digits_of_ten_le (Nat.le_of_not_lt hn), ofDigits_concat,
          ih _ (Nat.div_lt_self (by omega) (by omega))]
        omega

/-! ## Characters of digits -/

theorem digitValue?_digitChar {d : Nat} (h : d < 10) : digitValue? (digitChar d) = some d := by
  have hall : ∀ d < 10, digitValue? (digitChar d) = some d := by decide
  exact hall d h

theorem filterMap_map_digitChar {ds : List Nat} (h : ∀ d ∈ ds, d < 10) :
    (ds.map digitChar).filterMap digitValue? = ds := by
  induction ds with
  | nil => rfl
  | cons d ds ih =>
      rw [List.map_cons, List.filterMap_cons_some (digitValue?_digitChar (h d List.mem_cons_self)),
        ih fun x hx => h x (List.mem_cons_of_mem _ hx)]

theorem filterMap_digitChars (n : Nat) : (digitChars n).filterMap digitValue? = digits n :=
  filterMap_map_digitChar fun _ hd => lt_ten_of_mem_digits hd

theorem digitChars_ne_nil (n : Nat) : digitChars n ≠ [] := by
  simpa [digitChars] using digits_ne_nil n

theorem isDigit_of_mem_digitChars {n : Nat} {c : Char} (h : c ∈ digitChars n) :
    isDigit c = true := by
  obtain ⟨d, hd, rfl⟩ := List.mem_map.mp h
  rw [isDigit, digitValue?_digitChar (lt_ten_of_mem_digits hd)]
  rfl

theorem filterMap_zeros (k : Nat) :
    (List.replicate k '0').filterMap digitValue? = List.replicate k 0 := by
  induction k with
  | zero => rfl
  | succ k ih =>
      rw [List.replicate_succ, List.filterMap_cons_some (by decide : digitValue? '0' = some 0), ih,
        List.replicate_succ]

theorem isDigit_of_mem_zeros {k : Nat} {c : Char} (h : c ∈ List.replicate k '0') :
    isDigit c = true := by
  rw [List.eq_of_mem_replicate h]
  decide

namespace Numeral

/-! ## Integers -/

/-- The numeral of an integer. -/
def ofInt (n : Int) : Numeral where
  negative := decide (n < 0)
  whole := digitChars n.natAbs
  fraction := []
  whole_ne_nil := digitChars_ne_nil _
  isDigit_of_mem_whole _ hc := isDigit_of_mem_digitChars hc
  isDigit_of_mem_fraction _ hc := absurd hc List.not_mem_nil

theorem chars_ofInt (n : Int) : (ofInt n).chars = integerChars n := by
  cases n with
  | ofNat n => simp [chars, unsigned, ofInt, integerChars, Binary64.signed]
  | negSucc n => simp [chars, unsigned, ofInt, integerChars, Binary64.signed, Int.negSucc_lt_zero]

theorem integerOf?_ofInt (n : Int) : integerOf? (ofInt n).chars = some n := by
  rw [(ofInt n).integerOf?_chars rfl]
  simp only [ofInt, filterMap_digitChars, ofDigits_digits, decide_eq_true_eq, Option.some.injEq]
  split <;> omega

/-- An integer reads back from its numeral. -/
theorem ofText?_ofInt (n : Int) : ofText? (String.ofList (ofInt n).chars) = some (.int n) := by
  simp only [ofText?, String.toList_ofList, trimChars_chars, integerOf?_ofInt]

/-! ## Decimals -/

/-- The digits in front of the point of a decimal. -/
def wholeChars (d : Decimal) : List Char :=
  let ds := digitChars d.coefficient
  let point := (ds.length : Int) + d.exponent
  if 0 ≤ d.exponent then ds ++ List.replicate d.exponent.toNat '0'
  else if 0 < point then ds.take point.toNat
  else ['0']

/-- The digits behind the point of a decimal. -/
def fractionChars (d : Decimal) : List Char :=
  let ds := digitChars d.coefficient
  let point := (ds.length : Int) + d.exponent
  if 0 ≤ d.exponent then ['0']
  else if 0 < point then ds.drop point.toNat
  else List.replicate (-point).toNat '0' ++ ds

theorem length_digitChars_pos (n : Nat) : 0 < (digitChars n).length :=
  List.length_pos_iff.mpr (digitChars_ne_nil n)

theorem wholeChars_ne_nil (d : Decimal) : wholeChars d ≠ [] := by
  have hpos := length_digitChars_pos d.coefficient
  rw [← List.length_pos_iff]
  simp only [wholeChars]
  split
  · rw [List.length_append]
    omega
  · split
    · rw [List.length_take]
      omega
    · simp

theorem fractionChars_ne_nil (d : Decimal) : fractionChars d ≠ [] := by
  have hpos := length_digitChars_pos d.coefficient
  rw [← List.length_pos_iff]
  simp only [fractionChars]
  split
  · simp
  · split
    · rw [List.length_drop]
      omega
    · rw [List.length_append]
      omega

theorem mem_wholeChars {d : Decimal} {c : Char} (h : c ∈ wholeChars d) :
    c ∈ digitChars d.coefficient ∨ c = '0' := by
  simp only [wholeChars] at h
  split at h
  · rcases List.mem_append.mp h with h | h
    · exact .inl h
    · exact .inr (List.eq_of_mem_replicate h)
  · split at h
    · exact .inl (List.mem_of_mem_take h)
    · exact .inr (List.mem_singleton.mp h)

theorem mem_fractionChars {d : Decimal} {c : Char} (h : c ∈ fractionChars d) :
    c ∈ digitChars d.coefficient ∨ c = '0' := by
  simp only [fractionChars] at h
  split at h
  · exact .inr (List.mem_singleton.mp h)
  · split at h
    · exact .inl (List.mem_of_mem_drop h)
    · rcases List.mem_append.mp h with h | h
      · exact .inr (List.eq_of_mem_replicate h)
      · exact .inl h

/-- A digit of a number, or a zero. -/
theorem isDigit_of_mem_or_zero {n : Nat} {c : Char} (h : c ∈ digitChars n ∨ c = '0') :
    isDigit c = true := by
  rcases h with h | rfl
  · exact isDigit_of_mem_digitChars h
  · decide

/-- The numeral of a decimal. -/
def ofDecimal (negative : Bool) (d : Decimal) : Numeral where
  negative := negative
  whole := wholeChars d
  fraction := fractionChars d
  whole_ne_nil := wholeChars_ne_nil d
  isDigit_of_mem_whole _ hc := isDigit_of_mem_or_zero (mem_wholeChars hc)
  isDigit_of_mem_fraction _ hc := isDigit_of_mem_or_zero (mem_fractionChars hc)

/-- The positional notation of a decimal is digits, a point and more digits. -/
theorem positional_eq (d : Decimal) : d.positional = wholeChars d ++ '.' :: fractionChars d := by
  simp only [wholeChars, fractionChars, Decimal.positional]
  split
  · simp
  · split <;> simp

/-- The positional notation of a decimal is its numeral. -/
theorem chars_ofDecimal (negative : Bool) (d : Decimal) :
    (ofDecimal negative d).chars = Binary64.signed negative d.positional := by
  have hunsigned : (ofDecimal negative d).unsigned = wholeChars d ++ '.' :: fractionChars d :=
    if_neg (by simpa [ofDecimal] using fractionChars_ne_nil d)
  rw [chars, hunsigned, ← positional_eq]
  rfl

/-- The numeral of a decimal denotes the decimal itself, unless zeros had to be put behind its
digits. -/
theorem decimal_ofDecimal (negative : Bool) (d : Decimal) :
    (ofDecimal negative d).decimal =
      if 0 ≤ d.exponent then ⟨d.coefficient * 10 ^ d.exponent.toNat * 10, -1⟩ else d := by
  have hpos := length_digitChars_pos d.coefficient
  simp only [decimal, ofDecimal, wholeChars, fractionChars]
  split
  · have hvalue : ofDigits ((digitChars d.coefficient ++ List.replicate d.exponent.toNat '0' ++
        ['0']).filterMap digitValue?) = d.coefficient * 10 ^ d.exponent.toNat * 10 := by
      rw [List.filterMap_append, List.filterMap_append, filterMap_digitChars, filterMap_zeros,
        List.filterMap_cons_some (by decide : digitValue? '0' = some 0), List.filterMap_nil,
        ofDigits_concat, ofDigits_append_zeros, ofDigits_digits]
      omega
    rw [hvalue]
    rfl
  · split
    · rw [List.take_append_drop, filterMap_digitChars, ofDigits_digits, List.length_drop,
        show -(((digitChars d.coefficient).length -
          ((digitChars d.coefficient).length + d.exponent).toNat : Nat) : Int) = d.exponent by omega]
    · rw [List.filterMap_append, List.filterMap_append, filterMap_digitChars, filterMap_zeros,
        List.filterMap_cons_some (by decide : digitValue? '0' = some 0), List.filterMap_nil,
        List.singleton_append, ← List.cons_append, ← List.replicate_succ, ofDigits_zeros_append,
        ofDigits_digits, List.length_append, List.length_replicate]
      exact congrArg (Decimal.mk d.coefficient) (by omega)

/-- Laying digits out around the point keeps the value of a decimal. -/
theorem rank_ofDecimal (negative : Bool) (d : Decimal) :
    (ofDecimal negative d).decimal.rank = d.rank := by
  rw [decimal_ofDecimal]
  split
  · rw [Decimal.rank_eq, Decimal.rank_eq, show (-d.exponent).toNat = 0 by omega]
    apply nearestRank_congr (Nat.pow_pos (by decide)) (Nat.pow_pos (by decide))
    simp
  · rfl

/-- A finite double reads back from the numeral of its shortest decimal, zero with its sign. -/
theorem ofText?_ofDecimal_shortest (negative : Bool) (rank : Fin magnitudeCount) :
    ofText? (String.ofList (ofDecimal negative (shortest rank)).chars) =
      some (.double (.finite negative rank)) := by
  rw [ofText?_of_fraction _ (fractionChars_ne_nil _), Decimal.toBinary64_eq, rank_ofDecimal,
    rank_shortest rank.isLt]
  simp [ofDecimal, Binary64.ofRank]

end Numeral

end Eligibility.Number

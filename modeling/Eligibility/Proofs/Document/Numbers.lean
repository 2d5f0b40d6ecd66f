import Eligibility.Document.Reader
import Eligibility.Document.Writer
import Eligibility.Proofs.Number.Conversion

/-!
# Numbers in documents

Documents take fewer spellings of a number than rules do: the digits are those of ASCII, no idle
zero stands in front, and a point has digits on both sides (`IsStrict`). What is written for a
finite double is always one of these, in positional notation (`Numeral.toSpelling`) or in scientific
notation (`Spelling.scientific`), and its decimal is nearest to the double (`exists_isStrict_text`).
So numbers read back from what is written for them (`bareWord?_integerChars`,
`bareWord?_writeDouble`), the infinities and not-a-number by their names. No double is taken for an
integer with too many digits, nor is an integer that can be written (`overlong?_writeDouble`,
`overlong?_integerChars`).
-/

namespace Eligibility

open Number

namespace Number

/-! ## Spellings of what is written -/

/-- A numeral as a spelling. -/
def Numeral.toSpelling (m : Numeral) : Spelling where
  negative := m.negative
  whole := m.whole
  fraction := if m.fraction = [] then none else some m.fraction
  exponent := none
  isDigit_of_mem_whole := m.isDigit_of_mem_whole
  isDigit_of_mem_fraction ds hds := by
    split at hds
    · cases hds
    · exact Option.some.inj hds ▸ m.isDigit_of_mem_fraction
  hasDigit := .inl m.whole_ne_nil

theorem Numeral.chars_toSpelling (m : Numeral) : m.toSpelling.chars = m.chars := by
  by_cases hfraction : m.fraction = [] <;>
    simp [Spelling.chars, Spelling.unsigned, Spelling.pointChars, Spelling.powerChars, toSpelling,
      chars, unsigned, hfraction]

theorem Numeral.decimal_toSpelling (m : Numeral) : m.toSpelling.decimal = m.decimal := by
  by_cases hfraction : m.fraction = [] <;>
    simp [Spelling.decimal, Spelling.power, toSpelling, decimal, hfraction]

/-- The power of ten that is written for an integer, with a sign and two digits at least. -/
def Exponent.ofInt (n : Int) : Exponent where
  mark := 'e'
  sign := some (if n < 0 then '-' else '+')
  digits := List.replicate (2 - (digitChars n.natAbs).length) '0' ++ digitChars n.natAbs
  isMark := .inl rfl
  isSign c hc := by
    obtain rfl := Option.some.inj hc
    split
    · exact .inl rfl
    · exact .inr rfl
  digits_ne_nil := by simp [digitChars_ne_nil]
  isDigit_of_mem_digits c hc := by
    rcases List.mem_append.mp hc with hc | hc
    · exact isDigit_of_mem_zeros hc
    · exact isDigit_of_mem_digitChars hc

theorem Exponent.power_ofInt (n : Int) : (ofInt n).power = n := by
  simp only [power, ofInt, List.filterMap_append, filterMap_zeros, filterMap_digitChars,
    ofDigits_zeros_append, ofDigits_digits]
  by_cases hn : n < 0
  · rw [if_pos hn, if_pos rfl]
    omega
  · rw [if_neg hn, if_neg (by decide)]
    omega

namespace Spelling

/-- The scientific notation of a decimal. -/
def scientific (negative : Bool) (d : Decimal) : Spelling where
  negative := negative
  whole := (digitChars d.coefficient).take 1
  fraction := if (digitChars d.coefficient).drop 1 = [] then none
    else some ((digitChars d.coefficient).drop 1)
  exponent := some (.ofInt ((digitChars d.coefficient).length + d.exponent - 1))
  isDigit_of_mem_whole c hc := isDigit_of_mem_digitChars (List.mem_of_mem_take hc)
  isDigit_of_mem_fraction ds hds c hc := by
    split at hds
    · cases hds
    · obtain rfl := Option.some.inj hds
      exact isDigit_of_mem_digitChars (List.mem_of_mem_drop hc)
  hasDigit := .inl (by simp [List.take_eq_nil_iff, digitChars_ne_nil])

theorem chars_scientific (negative : Bool) (d : Decimal) :
    (scientific negative d).chars = Binary64.signed negative d.scientific := by
  rw [chars]
  congr 1
  cases hdrop : (digitChars d.coefficient).drop 1 <;>
    simp [unsigned, pointChars, powerChars, scientific, Decimal.scientific, Exponent.chars,
      Exponent.ofInt, hdrop]

theorem decimal_scientific (negative : Bool) (d : Decimal) :
    (scientific negative d).decimal = d := by
  have hlength := Numeral.length_digitChars_pos d.coefficient
  have hfraction :
      (scientific negative d).fraction.getD [] = (digitChars d.coefficient).drop 1 := by
    cases hdrop : (digitChars d.coefficient).drop 1 <;> simp [scientific, hdrop]
  have hpower : (scientific negative d).power =
      (digitChars d.coefficient).length + d.exponent - 1 := Exponent.power_ofInt _
  have hwhole : (scientific negative d).whole = (digitChars d.coefficient).take 1 := rfl
  rw [decimal, hfraction, hpower, hwhole, List.take_append_drop, filterMap_digitChars,
    ofDigits_digits, List.length_drop]
  exact congrArg (Decimal.mk d.coefficient) (by omega)

end Spelling

/-- The digits of a number other than zero begin with none. -/
theorem exists_digitChars_eq {n : Nat} (h : n ≠ 0) : ∃ c cs, digitChars n = c :: cs ∧ c ≠ '0' := by
  induction n using Nat.strongRecOn with
  | ind n ih =>
      by_cases hn : n < 10
      · have hdigit : ∀ d < 10, d ≠ 0 → digitChar d ≠ '0' := by decide
        exact ⟨digitChar n, [], by rw [digitChars, digits_of_lt_ten hn, List.map_singleton],
          hdigit n hn h⟩
      · obtain ⟨c, cs, hcs, hc⟩ := ih (n / 10) (Nat.div_lt_self (by omega) (by omega)) (by omega)
        refine ⟨c, cs ++ [digitChar (n % 10)], ?_, hc⟩
        rw [digitChars, digits_of_ten_le (Nat.le_of_not_lt hn), List.map_append, ← digitChars, hcs,
          List.map_singleton, List.cons_append]

/-- Of the shortest decimals only that of zero has no digits but zero. -/
theorem shortest_of_coefficient_eq_zero {rank : Nat} (hrank : rank < magnitudeCount)
    (h : (shortest rank).coefficient = 0) : (shortest rank).exponent = 0 := by
  have hback := rank_shortest hrank
  rw [Decimal.rank_eq, h, Nat.zero_mul, nearestRank_eq_zero] at hback
  · rw [← hback, shortest, if_pos rfl]
  · rw [Nat.zero_mul, Nat.mul_zero]
    exact Nat.pow_pos (by decide)

end Number

namespace Document

/-! ## Strict spellings -/

theorem toNat_of_isPlainDigit {c : Char} (h : isPlainDigit c = true) :
    48 ≤ c.toNat ∧ c.toNat ≤ 57 := by
  simp only [isPlainDigit, Bool.and_eq_true, decide_eq_true_eq] at h
  exact h

theorem isPlainDigit_of_mem_digitChars {n : Nat} {c : Char} (h : c ∈ digitChars n) :
    isPlainDigit c = true := by
  obtain ⟨d, hd, rfl⟩ := List.mem_map.mp h
  have hplain : ∀ d < 10, isPlainDigit (digitChar d) = true := by decide
  exact hplain d (lt_ten_of_mem_digits hd)

/-- A digit of a number, or a zero. -/
theorem isPlainDigit_of_mem_or_zero {n : Nat} {c : Char} (h : c ∈ digitChars n ∨ c = '0') :
    isPlainDigit c = true := by
  rcases h with h | rfl
  · exact isPlainDigit_of_mem_digitChars h
  · decide

theorem spanDigits_append {ds rest : List Char} (hds : ∀ c ∈ ds, isPlainDigit c = true)
    (hrest : ∀ c ∈ rest.head?, isPlainDigit c = false) : spanDigits (ds ++ rest) = (ds, rest) := by
  have hnone : rest.takeWhile isPlainDigit = [] ∧ rest.dropWhile isPlainDigit = rest := by
    cases rest with
    | nil => exact ⟨rfl, rfl⟩
    | cons c cs => simp [hrest c rfl]
  rw [spanDigits, List.takeWhile_append_of_pos hds, List.dropWhile_append_of_pos hds, hnone.1,
    hnone.2, List.append_nil]

theorem spanDigits_of_forall {ds : List Char} (hds : ∀ c ∈ ds, isPlainDigit c = true) :
    spanDigits ds = (ds, []) := by
  have hspan : spanDigits (ds ++ []) = (ds, []) := spanDigits_append hds (by simp)
  rwa [List.append_nil] at hspan

/-- The spelling is one that documents take. -/
structure IsStrict (m : Spelling) : Prop where
  whole : ∀ c ∈ m.whole, isPlainDigit c = true
  isWholePart : isWholePart m.whole = true
  fraction : ∀ ds ∈ m.fraction, ds ≠ [] ∧ ∀ c ∈ ds, isPlainDigit c = true
  exponent : ∀ e ∈ m.exponent, ∀ c ∈ e.digits, isPlainDigit c = true

namespace IsStrict

variable {m : Spelling}

theorem head?_powerChars (m : Spelling) : ∀ c ∈ m.powerChars.head?, isPlainDigit c = false := by
  intro c hc
  rcases m.head?_powerChars c hc with rfl | rfl
  · decide
  · decide

theorem spanDigits_unsigned (h : IsStrict m) :
    spanDigits m.unsigned = (m.whole, m.pointChars ++ m.powerChars) := by
  refine spanDigits_append h.whole ?_
  unfold Spelling.pointChars
  cases m.fraction with
  | none => exact head?_powerChars m
  | some ds =>
      rintro c ⟨⟩
      decide

theorem afterFraction?_chars (h : IsStrict m) :
    afterFraction? (m.pointChars ++ m.powerChars) = some m.powerChars := by
  cases hfraction : m.fraction with
  | none =>
      rw [Spelling.pointChars, hfraction, Option.elim_none, List.nil_append]
      unfold afterFraction?
      split
      · rename_i cs hpower
        rcases m.head?_powerChars '.' (by simp [hpower]) with hmark | hmark
        · exact absurd hmark (by decide)
        · exact absurd hmark (by decide)
      · rfl
  | some ds =>
      obtain ⟨hne, hds⟩ := h.fraction ds hfraction
      obtain ⟨d, rest, rfl⟩ := List.exists_cons_of_ne_nil hne
      have hspan := spanDigits_append hds (head?_powerChars m)
      simp only [Spelling.pointChars, hfraction, Option.elim_some, List.cons_append] at hspan ⊢
      simp only [afterFraction?, hspan]

theorem isExponentPart_powerChars (h : IsStrict m) : isExponentPart m.powerChars = true := by
  unfold Spelling.powerChars
  cases hexponent : m.exponent with
  | none => rfl
  | some e =>
      obtain ⟨d, ds, hds⟩ := List.exists_cons_of_ne_nil e.digits_ne_nil
      have hspan := spanDigits_of_forall (h.exponent e hexponent)
      have hbody := e.takeSign_body
      rw [hds] at hspan hbody
      simp [isExponentPart, Exponent.chars, e.isMark, hds, hbody, hspan]

/-- Whatever stands in a strict spelling is a digit or one of the marks of numbers. -/
theorem mem_chars (h : IsStrict m) {c : Char} (hc : c ∈ m.chars) :
    isPlainDigit c = true ∨ c ∈ ['-', '+', '.', 'e', 'E'] := by
  have hpoint : c ∈ m.pointChars → isPlainDigit c = true ∨ c ∈ ['-', '+', '.', 'e', 'E'] := by
    unfold Spelling.pointChars
    cases hfraction : m.fraction with
    | none => exact fun hc => absurd hc List.not_mem_nil
    | some ds =>
        intro hc
        rcases List.mem_cons.mp hc with rfl | hc
        · exact .inr (by decide)
        · exact .inl ((h.fraction ds hfraction).2 c hc)
  have hpower : c ∈ m.powerChars → isPlainDigit c = true ∨ c ∈ ['-', '+', '.', 'e', 'E'] := by
    unfold Spelling.powerChars
    cases hexponent : m.exponent with
    | none => exact fun hc => absurd hc List.not_mem_nil
    | some e =>
        intro hc
        rcases List.mem_cons.mp hc with rfl | hc
        · rcases e.isMark with hmark | hmark <;> simp [hmark]
        · rcases List.mem_append.mp hc with hc | hc
          · rcases e.isSign c (Option.mem_toList.mp hc) with rfl | rfl <;> simp
          · exact .inl (h.exponent e hexponent c hc)
  have hunsigned : c ∈ m.unsigned → isPlainDigit c = true ∨ c ∈ ['-', '+', '.', 'e', 'E'] := by
    intro hc
    rcases List.mem_append.mp hc with hc | hc
    · exact .inl (h.whole c hc)
    · exact (List.mem_append.mp hc).elim hpoint hpower
  unfold Spelling.chars Binary64.signed at hc
  split at hc
  · rcases List.mem_cons.mp hc with rfl | hc
    · exact .inr (by decide)
    · exact hunsigned hc
  · exact hunsigned hc

/-- A strict spelling with a point or a power of ten is a double. -/
theorem number?_chars (h : IsStrict m) (hdouble : m.fraction ≠ none ∨ m.exponent ≠ none) :
    number? m.chars = some (.double (m.decimal.toBinary64 m.negative)) := by
  have hrest : m.pointChars ++ m.powerChars ≠ [] := by
    rcases hdouble with hfraction | hexponent
    · obtain ⟨ds, hds⟩ := Option.ne_none_iff_exists'.mp hfraction
      simp [Spelling.pointChars, hds]
    · obtain ⟨e, he⟩ := Option.ne_none_iff_exists'.mp hexponent
      simp [Spelling.powerChars, he, Exponent.chars]
  simp [number?, m.dropMinus_chars, h.spanDigits_unsigned, h.isWholePart, hrest,
    h.afterFraction?_chars, h.isExponentPart_powerChars, m.doubleOf?_chars]

/-- A point or a power of ten goes on behind the whole part. -/
theorem continuesWhole_chars (h : IsStrict m) (hdouble : m.fraction ≠ none ∨ m.exponent ≠ none) :
    continuesWhole (m.pointChars ++ m.powerChars) = true := by
  cases hfraction : m.fraction with
  | some ds =>
      obtain ⟨hne, hds⟩ := h.fraction ds hfraction
      obtain ⟨d, rest, rfl⟩ := List.exists_cons_of_ne_nil hne
      have hd : isPlainDigit d = true := hds d List.mem_cons_self
      simp [Spelling.pointChars, hfraction, continuesWhole, hd]
  | none =>
      obtain ⟨e, he⟩ := Option.ne_none_iff_exists'.mp (hdouble.resolve_left (not_not.mpr hfraction))
      obtain ⟨d, rest, hdigits⟩ := List.exists_cons_of_ne_nil e.digits_ne_nil
      have hd : isPlainDigit d = true := h.exponent e he d (by simp [hdigits])
      have hpoint : e.mark ≠ '.' := by rcases e.isMark with hmark | hmark <;> simp [hmark]
      have hmark : (e.mark == 'e' || e.mark == 'E') = true := by simpa using e.isMark
      have hhead : (takeSign (e.sign.toList ++ e.digits)).2.head? = some d := by
        rw [e.takeSign_body, hdigits]
        rfl
      simp [Spelling.pointChars, Spelling.powerChars, hfraction, he, Exponent.chars, continuesWhole,
        hpoint, hmark, hhead, hd]

/-- A strict spelling with a point or a power of ten is no integer, however long it is. -/
theorem overlong?_chars (h : IsStrict m) (hdouble : m.fraction ≠ none ∨ m.exponent ≠ none) :
    overlong? m.chars = none := by
  simp [overlong?, m.dropMinus_chars, h.spanDigits_unsigned, h.continuesWhole_chars hdouble]

end IsStrict

/-! ## What is written for a number -/

theorem isWholePart_of_ne {c : Char} (hc : c ≠ '0') (cs : List Char) :
    isWholePart (c :: cs) = true := by
  unfold isWholePart
  split
  · rfl
  · rename_i heq
    obtain ⟨rfl, -⟩ := List.cons.inj heq
    simpa using hc
  · rename_i heq
    cases heq

/-- The digits of a number are a whole part, and so they are with more behind them unless the number
is zero. -/
theorem isWholePart_digitChars (n : Nat) {more : List Char} (hmore : n = 0 → more = []) :
    isWholePart (digitChars n ++ more) = true := by
  by_cases hn : n = 0
  · rw [hmore hn, hn, digitChars, digits_of_lt_ten (by decide)]
    rfl
  · obtain ⟨c, cs, hcs, hc⟩ := exists_digitChars_eq hn
    rw [hcs, List.cons_append]
    exact isWholePart_of_ne hc _

theorem spanDigits_integerChars (n : Int) :
    spanDigits (dropMinus (integerChars n)) = (digitChars n.natAbs, []) := by
  have hdrop : dropMinus (integerChars n) = digitChars n.natAbs := by
    rw [← Numeral.chars_ofInt, Numeral.dropMinus_chars]
    rfl
  rw [hdrop]
  exact spanDigits_of_forall fun _ hc => isPlainDigit_of_mem_digitChars hc

theorem number?_integerChars (n : Int) : number? (integerChars n) = some (.int n) := by
  have hwhole := isWholePart_digitChars n.natAbs (fun _ => rfl)
  rw [List.append_nil] at hwhole
  have hread : integerOf? (integerChars n) = some n := by
    rw [← Numeral.chars_ofInt]
    exact Numeral.integerOf?_ofInt n
  simp [number?, spanDigits_integerChars, hwhole, hread]

theorem isWholePart_wholeChars {d : Decimal} (hzero : d.coefficient = 0 → d.exponent = 0) :
    isWholePart (Numeral.wholeChars d) = true := by
  unfold Numeral.wholeChars
  simp only
  split
  · refine isWholePart_digitChars d.coefficient fun hcoefficient => ?_
    rw [hzero hcoefficient]
    rfl
  · rename_i hnegative
    split
    · rename_i hpoint
      have hne : d.coefficient ≠ 0 := fun hcoefficient => hnegative (by simp [hzero hcoefficient])
      obtain ⟨c, cs, hcs, hc⟩ := exists_digitChars_eq hne
      obtain ⟨k, hk⟩ :
          ∃ k, (((digitChars d.coefficient).length : Int) + d.exponent).toNat = k + 1 :=
        ⟨_, (Nat.sub_add_cancel (by omega)).symm⟩
      rw [hk, hcs, List.take_succ_cons]
      exact isWholePart_of_ne hc _
    · rfl

/-- The positional notation of a decimal is strict. -/
theorem isStrict_ofDecimal (negative : Bool) {d : Decimal}
    (hzero : d.coefficient = 0 → d.exponent = 0) :
    IsStrict (Numeral.ofDecimal negative d).toSpelling where
  whole c hc := isPlainDigit_of_mem_or_zero (Numeral.mem_wholeChars hc)
  isWholePart := isWholePart_wholeChars hzero
  fraction ds hds := by
    simp only [Numeral.toSpelling, Numeral.ofDecimal, Numeral.fractionChars_ne_nil, if_false,
      Option.mem_some] at hds
    subst hds
    exact ⟨Numeral.fractionChars_ne_nil d,
      fun c hc => isPlainDigit_of_mem_or_zero (Numeral.mem_fractionChars hc)⟩
  exponent e he := by cases he

/-- The scientific notation of a decimal is strict. -/
theorem isStrict_scientific (negative : Bool) (d : Decimal) :
    IsStrict (Spelling.scientific negative d) where
  whole c hc := isPlainDigit_of_mem_digitChars (List.mem_of_mem_take hc)
  isWholePart := by
    obtain ⟨c, cs, hcs⟩ := List.exists_cons_of_ne_nil (digitChars_ne_nil d.coefficient)
    simp only [Spelling.scientific, hcs, List.take_succ_cons, List.take_zero]
    by_cases hc : c = '0'
    · rw [hc]
      rfl
    · exact isWholePart_of_ne hc []
  fraction ds hds := by
    simp only [Spelling.scientific] at hds
    split at hds
    · cases hds
    · rename_i hne
      obtain rfl := Option.some.inj hds
      exact ⟨hne, fun c hc => isPlainDigit_of_mem_digitChars (List.mem_of_mem_drop hc)⟩
  exponent e he := by
    obtain rfl := Option.some.inj he
    intro c hc
    rcases List.mem_append.mp hc with hc | hc
    · exact @isPlainDigit_of_mem_or_zero 0 c (.inr (List.eq_of_mem_replicate hc))
    · exact isPlainDigit_of_mem_digitChars hc

/-- A finite double is written in a strict spelling of a decimal that it is nearest to. -/
theorem exists_isStrict_text (negative : Bool) (rank : Fin magnitudeCount) :
    ∃ m : Spelling, IsStrict m ∧ (m.fraction ≠ none ∨ m.exponent ≠ none) ∧
      (Binary64.finite negative rank).text.toList = m.chars ∧
      m.decimal.toBinary64 m.negative = .finite negative rank := by
  have hrank := rank_shortest rank.isLt
  have hback : ∀ d : Decimal, d.rank = rank → d.toBinary64 negative = .finite negative rank := by
    intro d hd
    rw [Decimal.toBinary64_eq, hd, Binary64.ofRank, dif_pos rank.isLt]
  rw [Binary64.text, String.toList_ofList, Decimal.general]
  split
  · refine ⟨(Numeral.ofDecimal negative (shortest rank)).toSpelling,
      isStrict_ofDecimal negative (shortest_of_coefficient_eq_zero rank.isLt), .inl ?_, ?_, ?_⟩
    · simp [Numeral.toSpelling, Numeral.ofDecimal, Numeral.fractionChars_ne_nil]
    · rw [Numeral.chars_toSpelling, Numeral.chars_ofDecimal]
    · rw [Numeral.decimal_toSpelling]
      exact hback _ ((Numeral.rank_ofDecimal _ _).trans hrank)
  · refine ⟨Spelling.scientific negative (shortest rank), isStrict_scientific _ _, .inr ?_, ?_, ?_⟩
    · simp [Spelling.scientific]
    · rw [Spelling.chars_scientific]
    · rw [Spelling.decimal_scientific]
      exact hback _ hrank

/-- A finite double reads back from its text. -/
theorem number?_text (negative : Bool) (rank : Fin magnitudeCount) :
    number? (Binary64.finite negative rank).text.toList =
      some (.double (.finite negative rank)) := by
  obtain ⟨m, hstrict, hdouble, htext, hback⟩ := exists_isStrict_text negative rank
  rw [htext, hstrict.number?_chars hdouble, hback]

/-- None of the words is a number. -/
theorem bareWord?_of_number? {cs : List Char} {n : Number} (h : number? cs = some n) :
    bareWord? cs = some (.number n) := by
  have hne : ∀ word, number? word = none → cs ≠ word := by
    rintro word hword rfl
    rw [hword] at h
    cases h
  rw [bareWord?, if_neg (hne _ rfl), if_neg (hne _ rfl), if_neg (hne _ rfl), if_neg (hne _ rfl),
    if_neg (hne _ rfl), if_neg (hne _ rfl), h]
  rfl

theorem bareWord?_integerChars (n : Int) :
    bareWord? (integerChars n) = some (.number (.int n)) :=
  bareWord?_of_number? (number?_integerChars n)

/-- An integer that can be written has not too many digits. -/
theorem overlong?_integerChars {n : Int} (h : isWritable n = true) :
    overlong? (integerChars n) = none := by
  have hlength : (digitChars n.natAbs).length ≤ maxDigits := by
    simpa [isWritable, digitChars] using h
  simp only [overlong?, spanDigits_integerChars]
  rw [if_neg fun hlong => Nat.not_lt.mpr hlength hlong.1]

theorem overlong?_writeDouble (x : Binary64) : overlong? (Value.writeDouble x) = none := by
  cases x with
  | nan => rfl
  | infinity negative => cases negative <;> rfl
  | finite negative rank =>
      obtain ⟨m, hstrict, hdouble, htext, -⟩ := exists_isStrict_text negative rank
      show overlong? (Binary64.finite negative rank).text.toList = none
      rw [htext, hstrict.overlong?_chars hdouble]

/-- A double reads back from what is written for it. -/
theorem bareWord?_writeDouble (x : Binary64) :
    bareWord? (Value.writeDouble x) = some (.number (.double x)) := by
  cases x with
  | nan => rfl
  | infinity negative => cases negative <;> rfl
  | finite negative rank => exact bareWord?_of_number? (number?_text negative rank)

end Document

end Eligibility

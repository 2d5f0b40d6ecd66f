import Eligibility.Proofs.Number.Numeral

/-!
# How numbers may be spelled

The test for numbers takes more than numerals: digits may be missing on one side of the point,
and a power of ten may stand behind them. A `Spelling` is such a text in its parts. The texts
that pass the test are, but for blanks around them, exactly the spellings
(`exists_trimChars_eq`, `Spelling.isNumericText_of_trimChars`). A spelling reads as the decimal that
its parts make up (`Spelling.decimalOf?_unsigned`, `Spelling.doubleOf?_chars`), or as an integer if
it has digits alone (`Spelling.ofText?_of_trimChars`).
-/

namespace Eligibility.Number

open Text

/-! ## Powers of ten -/

/-- A power of ten behind a number: a mark, a sign or none, and digits. -/
structure Exponent where
  mark : Char
  sign : Option Char
  digits : List Char
  isMark : mark = 'e' ∨ mark = 'E'
  isSign : ∀ c ∈ sign, c = '-' ∨ c = '+'
  digits_ne_nil : digits ≠ []
  isDigit_of_mem_digits : ∀ c ∈ digits, isDigit c = true

/-- The characters of a power of ten. -/
def Exponent.chars (e : Exponent) : List Char := e.mark :: (e.sign.toList ++ e.digits)

/-- What `takeDigits` takes are the digits in front of what it leaves. -/
theorem exists_of_takeDigits (cs : List Char) :
    ∃ ds, (∀ c ∈ ds, isDigit c = true) ∧ cs = ds ++ (takeDigits cs).2 ∧
      ((takeDigits cs).1 = [] ↔ ds = []) := by
  induction cs with
  | nil => exact ⟨[], by simp, rfl, by simp [takeDigits]⟩
  | cons c cs ih =>
      cases hc : digitValue? c with
      | none => exact ⟨[], by simp, by simp [takeDigits, hc], by simp [takeDigits, hc]⟩
      | some d =>
          obtain ⟨ds, hds, hcs, -⟩ := ih
          have htake : takeDigits (c :: cs) = (d :: (takeDigits cs).1, (takeDigits cs).2) := by
            rw [takeDigits, hc]
          refine ⟨c :: ds, ?_, ?_, by simp [htake]⟩
          · intro x hx
            rcases List.mem_cons.mp hx with rfl | hx
            · simp [isDigit, hc]
            · exact hds x hx
          · rw [htake, List.cons_append, ← hcs]

namespace Exponent

/-- The sign is taken, if there is one. -/
theorem takeSign_body (e : Exponent) :
    takeSign (e.sign.toList ++ e.digits) = (decide (e.sign = some '-'), e.digits) := by
  cases hsign : e.sign with
  | some c => rcases e.isSign c hsign with rfl | rfl <;> rfl
  | none =>
      obtain ⟨d, ds, hds⟩ := List.exists_cons_of_ne_nil e.digits_ne_nil
      have hd : isDigit d = true := e.isDigit_of_mem_digits d (by simp [hds])
      rw [Option.toList_none, List.nil_append, hds]
      unfold takeSign
      split
      · obtain ⟨rfl, -⟩ := List.cons.inj ‹_›
        exact absurd hd (by decide)
      · obtain ⟨rfl, -⟩ := List.cons.inj ‹_›
        exact absurd hd (by decide)
      · rfl

/-- The power itself. -/
def power (e : Exponent) : Int :=
  let n := ofDigits (e.digits.filterMap digitValue?)
  if e.sign = some '-' then -n else n

theorem exponentOf?_chars (e : Exponent) : exponentOf? e.chars = some e.power := by
  obtain ⟨d, ds, hds⟩ := List.exists_cons_of_ne_nil
    (mt (Numeral.filterMap_digitValue?_eq_nil_iff e.isDigit_of_mem_digits).mp e.digits_ne_nil)
  have htake : takeDigits e.digits = (d :: ds, []) := by
    rw [takeDigits_of_forall e.isDigit_of_mem_digits, hds]
  simp [chars, exponentOf?, e.isMark, takeSign_body, htake, power, hds]

end Exponent

/-- What reads as a power of ten is one, or there is none. -/
theorem exists_exponent {cs : List Char} (h : (exponentOf? cs).isSome = true) :
    ∃ exponent : Option Exponent, cs = exponent.elim [] Exponent.chars := by
  cases cs with
  | nil => exact ⟨none, rfl⟩
  | cons mark cs =>
      rw [exponentOf?] at h
      split at h
      · rename_i hmark
        obtain ⟨digits, hdigits, hbody, hnil⟩ := exists_of_takeDigits (takeSign cs).2
        -- the whole of what stands behind the sign is digits, and there are some
        have hall : (takeSign cs).2 = digits ∧ digits ≠ [] := by
          revert h
          rcases htaken : takeDigits (takeSign cs).2 with ⟨ds, rest⟩
          rw [htaken] at hbody hnil
          cases ds with
          | nil => simp [htaken]
          | cons d ds =>
              cases rest with
              | nil =>
                  intro _
                  exact ⟨by simpa using hbody, by simpa using mt hnil.mpr⟩
              | cons r rest => simp [htaken]
        -- what `takeSign` took away is the sign
        obtain ⟨sign, hsign, hcs⟩ : ∃ sign : Option Char, (∀ c ∈ sign, c = '-' ∨ c = '+') ∧
            cs = sign.toList ++ (takeSign cs).2 := by
          unfold takeSign
          split
          · exact ⟨some '-', by simp, rfl⟩
          · exact ⟨some '+', by simp, rfl⟩
          · exact ⟨none, by simp, rfl⟩
        rw [hall.1] at hcs
        exact ⟨some ⟨mark, sign, digits, hmark, hsign, hall.2, hdigits⟩, congrArg _ hcs⟩
      · exact absurd h (by simp)

/-! ## Spellings -/

/-- A text that passes the test for numbers, in its parts. The fraction is what stands behind the
point, if there is a point. -/
structure Spelling where
  negative : Bool
  whole : List Char
  fraction : Option (List Char)
  exponent : Option Exponent
  isDigit_of_mem_whole : ∀ c ∈ whole, isDigit c = true
  isDigit_of_mem_fraction : ∀ ds ∈ fraction, ∀ c ∈ ds, isDigit c = true
  hasDigit : whole ≠ [] ∨ ∃ ds ∈ fraction, ds ≠ []

namespace Spelling

variable (m : Spelling)

/-- The point and the digits behind it. -/
def pointChars : List Char := m.fraction.elim [] ('.' :: ·)

/-- The power of ten. -/
def powerChars : List Char := m.exponent.elim [] Exponent.chars

/-- The spelling without its minus. -/
def unsigned : List Char := m.whole ++ (m.pointChars ++ m.powerChars)

/-- The characters of the spelling. -/
def chars : List Char := Binary64.signed m.negative m.unsigned

/-- The spelling without its minus and without its point, the digits closed up. -/
def stripped : Spelling where
  negative := false
  whole := m.whole ++ m.fraction.getD []
  fraction := none
  exponent := m.exponent
  isDigit_of_mem_whole := by
    intro c hc
    rcases List.mem_append.mp hc with hc | hc
    · exact m.isDigit_of_mem_whole c hc
    · cases hfraction : m.fraction with
      | none => simp [hfraction] at hc
      | some ds => exact m.isDigit_of_mem_fraction ds hfraction c (by simpa [hfraction] using hc)
  isDigit_of_mem_fraction := by simp
  hasDigit := by
    left
    rcases m.hasDigit with hwhole | ⟨ds, hfraction, hds⟩
    · simp [hwhole]
    · simp [Option.mem_def.mp hfraction, hds]

theorem head?_powerChars : ∀ c ∈ m.powerChars.head?, c = 'e' ∨ c = 'E' := by
  intro c hc
  unfold powerChars at hc
  cases hexponent : m.exponent with
  | none => simp [hexponent] at hc
  | some e =>
      obtain rfl : e.mark = c := by simpa [hexponent, Exponent.chars] using hc
      exact e.isMark

theorem startsWithDigit_powerChars : startsWithDigit m.powerChars = false := by
  cases hpower : m.powerChars with
  | nil => rfl
  | cons c cs =>
      rcases m.head?_powerChars c (by simp [hpower]) with rfl | rfl
      · show isDigit 'e' = false
        decide
      · show isDigit 'E' = false
        decide

/-- The power of ten that the digits are scaled by. -/
def power : Int := m.exponent.elim 0 Exponent.power

theorem exponentOf?_powerChars : exponentOf? m.powerChars = some m.power := by
  unfold powerChars power
  cases m.exponent with
  | none => rfl
  | some e => exact e.exponentOf?_chars

/-- The decimal that the spelling denotes, apart from its sign. -/
def decimal : Decimal :=
  ⟨ofDigits ((m.whole ++ m.fraction.getD []).filterMap digitValue?),
    m.power - (m.fraction.getD []).length⟩

/-- A spelling reads as the decimal that it denotes. -/
theorem decimalOf?_unsigned : decimalOf? m.unsigned = some m.decimal := by
  have hpower := m.exponentOf?_powerChars
  have hwhole := Numeral.filterMap_digitValue?_eq_nil_iff m.isDigit_of_mem_whole
  have hdigit := m.hasDigit
  cases hfraction : m.fraction with
  | none =>
      have htake := takeDigits_append m.isDigit_of_mem_whole m.startsWithDigit_powerChars
      have hpoint : ∀ after, m.powerChars ≠ '.' :: after := by
        intro after hafter
        have := m.head?_powerChars '.' (by simp [hafter])
        exact absurd this (by decide)
      have hunsigned : m.unsigned = m.whole ++ m.powerChars := by
        simp [unsigned, pointChars, hfraction]
      simp only [hfraction, Option.mem_def, reduceCtorEq, false_and, exists_false, or_false]
        at hdigit
      rw [hunsigned, decimalOf?, htake]
      -- no point stands behind the digits, so nothing is taken for a fraction
      simp [hwhole, hdigit, hpower, decimal, hfraction]
  | some ds =>
      have hds := m.isDigit_of_mem_fraction ds hfraction
      have htake := takeDigits_append m.isDigit_of_mem_whole
        (Numeral.startsWithDigit_point (ds ++ m.powerChars))
      have hmore := takeDigits_append hds m.startsWithDigit_powerChars
      have hlength := Numeral.length_filterMap_digitValue? hds
      have hunsigned : m.unsigned = m.whole ++ '.' :: (ds ++ m.powerChars) := by
        simp [unsigned, pointChars, hfraction]
      have hsome : ¬ (m.whole = [] ∧ ds = []) := by
        rintro ⟨hw, hd⟩
        rcases hdigit with hdigit | ⟨ds', hds', hdigit⟩
        · exact hdigit hw
        · rw [hfraction, Option.mem_some] at hds'
          exact hdigit (hds' ▸ hd)
      rw [hunsigned, decimalOf?, htake]
      simp [hmore, hwhole, Numeral.filterMap_digitValue?_eq_nil_iff hds, hsome, hpower, decimal,
        hfraction, hlength]

theorem exists_unsigned_eq : ∃ c cs, m.unsigned = c :: cs ∧ (isDigit c = true ∨ c = '.') := by
  cases hwhole : m.whole with
  | cons c cs =>
      exact ⟨c, cs ++ (m.pointChars ++ m.powerChars), by simp [unsigned, hwhole],
        .inl (m.isDigit_of_mem_whole c (by simp [hwhole]))⟩
  | nil =>
      rcases m.hasDigit with hdigit | ⟨ds, hfraction, -⟩
      · exact absurd hwhole hdigit
      · refine ⟨'.', ds ++ m.powerChars, ?_, .inr rfl⟩
        simp [unsigned, pointChars, hwhole, Option.mem_def.mp hfraction]

theorem dropMinus_chars : dropMinus m.chars = m.unsigned := by
  obtain ⟨c, cs, hunsigned, hc⟩ := m.exists_unsigned_eq
  rw [chars, hunsigned]
  apply dropMinus_signed
  rintro rfl
  exact absurd hc (by decide)

/-- Nothing in a spelling is blank. -/
theorem isBlank_of_mem_chars {c : Char} (h : c ∈ m.chars) : isBlank c = false := by
  have hdigits : ∀ ds : List Char, (∀ c ∈ ds, isDigit c = true) → c ∈ ds → isBlank c = false :=
    fun ds hds hc => isBlank_of_isDigit (hds c hc)
  have hpower : c ∈ m.powerChars → isBlank c = false := by
    unfold powerChars
    cases m.exponent with
    | none => simp
    | some e =>
        intro hc
        rcases List.mem_cons.mp hc with rfl | hc
        · rcases e.isMark with h | h <;> rw [h] <;> decide
        · rcases List.mem_append.mp hc with hc | hc
          · rcases e.isSign c (Option.mem_toList.mp hc) with rfl | rfl <;> decide
          · exact hdigits _ e.isDigit_of_mem_digits hc
  have hpoint : c ∈ m.pointChars → isBlank c = false := by
    unfold pointChars
    cases hfraction : m.fraction with
    | none => simp
    | some ds =>
        intro hc
        rcases List.mem_cons.mp hc with rfl | hc
        · decide
        · exact hdigits _ (m.isDigit_of_mem_fraction ds hfraction) hc
  have hunsigned : c ∈ m.unsigned → isBlank c = false := by
    intro hc
    rcases List.mem_append.mp hc with hc | hc
    · exact hdigits _ m.isDigit_of_mem_whole hc
    · exact (List.mem_append.mp hc).elim hpoint hpower
  unfold chars Binary64.signed at h
  split at h
  · rcases List.mem_cons.mp h with rfl | h
    · decide
    · exact hunsigned h
  · exact hunsigned h

/-- **Every spelling passes the test for numbers**, whatever blanks stand around it. -/
theorem isNumericText_of_trimChars {s : String} (h : trimChars s.toList = m.chars) :
    isNumericText s = true := by
  rw [isNumericText, h, dropMinus_chars, decimalOf?_unsigned]
  rfl

theorem isNumericText_chars : isNumericText (String.ofList m.chars) = true := by
  apply m.isNumericText_of_trimChars
  rw [String.toList_ofList]
  exact trimChars_of_not_isBlank fun c hc => m.isBlank_of_mem_chars hc

/-- A spelling reads as the double nearest to its decimal. -/
theorem doubleOf?_chars : doubleOf? m.chars = some (m.decimal.toBinary64 m.negative) := by
  have hsign : (takeSign m.chars).1 = m.negative := by
    obtain ⟨c, cs, hunsigned, hc⟩ := m.exists_unsigned_eq
    rw [chars, hunsigned]
    apply takeSign_signed
    rintro rfl
    exact absurd hc (by decide)
  rw [← hsign]
  apply doubleOf?_of_decimalOf?
  rw [dropMinus_chars, decimalOf?_unsigned]

/-- The number that the spelling denotes: an integer if nothing but a minus stands with the digits,
and the double nearest to its decimal otherwise. -/
def number : Number :=
  match m.fraction, m.exponent with
  | none, none =>
      let n := ofDigits (m.whole.filterMap digitValue?)
      .int (if m.negative then -(n : Int) else n)
  | _, _ => .double (m.decimal.toBinary64 m.negative)

theorem head?_chars : m.chars.head? = some '-' ↔ m.negative = true := by
  obtain ⟨c, cs, hunsigned, hc⟩ := m.exists_unsigned_eq
  rw [chars, hunsigned, Binary64.signed]
  cases m.negative with
  | true => simp
  | false =>
      suffices c ≠ '-' by simpa
      rintro rfl
      exact absurd hc (by decide)

/-- Digits alone are an integer, and a point or a power of ten behind them makes them none. -/
theorem integerOf?_chars : integerOf? m.chars =
    if m.fraction.isNone ∧ m.exponent.isNone then
      some (if m.negative then -(ofDigits (m.whole.filterMap digitValue?) : Int)
        else ofDigits (m.whole.filterMap digitValue?))
    else none := by
  have hrest : startsWithDigit (m.pointChars ++ m.powerChars) = false := by
    cases hfraction : m.fraction with
    | none => simpa [pointChars, hfraction] using m.startsWithDigit_powerChars
    | some ds => simpa [pointChars, hfraction] using Numeral.startsWithDigit_point _
  have htake : takeDigits m.unsigned =
      (m.whole.filterMap digitValue?, m.pointChars ++ m.powerChars) :=
    takeDigits_append m.isDigit_of_mem_whole hrest
  have hnil : m.pointChars ++ m.powerChars = [] ↔ m.fraction.isNone ∧ m.exponent.isNone := by
    unfold pointChars powerChars Exponent.chars
    cases m.fraction <;> cases m.exponent <;> simp
  rw [integerOf?, dropMinus_chars, htake]
  cases hwhole : m.whole.filterMap digitValue? with
  | nil =>
      have hfraction : m.fraction ≠ none := by
        intro hfraction
        rw [Numeral.filterMap_digitValue?_eq_nil_iff m.isDigit_of_mem_whole] at hwhole
        have := m.hasDigit
        simp [hwhole, hfraction] at this
      simp [hfraction]
  | cons d ds =>
      cases hafter : m.pointChars ++ m.powerChars with
      | nil => simp [hnil.mp hafter, head?_chars]
      | cons c cs =>
          rw [if_neg fun h => ?_]
          rw [hnil.mpr h] at hafter
          exact absurd hafter (by simp)

/-- **A spelling reads as the number that it denotes**, whatever blanks stand around it. -/
theorem ofText?_of_trimChars {s : String} (h : trimChars s.toList = m.chars) :
    ofText? s = some m.number := by
  rw [ofText?, h, integerOf?_chars, m.doubleOf?_chars, number]
  cases m.fraction <;> cases m.exponent <;> simp

end Spelling

/-- What reads as a decimal is a spelling without a minus. -/
theorem exists_of_decimalOf? {cs : List Char} (h : (decimalOf? cs).isSome = true)
    (negative : Bool) : ∃ m : Spelling, m.negative = negative ∧ cs = m.unsigned := by
  obtain ⟨whole, hwhole, hcs, hnil⟩ := exists_of_takeDigits cs
  rw [decimalOf?] at h
  rcases htaken : takeDigits cs with ⟨values, rest⟩
  rw [htaken] at h hcs hnil
  simp only at h hcs hnil
  split at h
  · -- a point, with digits behind it or without
    rename_i after
    obtain ⟨fraction, hfraction, hafter, hnone⟩ := exists_of_takeDigits after
    split at h
    · exact absurd h (by simp)
    · rename_i hdigit
      rw [Option.isSome_map] at h
      obtain ⟨exponent, hexponent⟩ := exists_exponent h
      have hsome : whole ≠ [] ∨ ∃ ds ∈ some fraction, ds ≠ [] := by
        simp only [Bool.and_eq_true, List.isEmpty_iff, hnil, hnone] at hdigit
        by_cases hw : whole = []
        · exact .inr ⟨fraction, rfl, fun hf => hdigit ⟨hw, hf⟩⟩
        · exact .inl hw
      refine ⟨⟨negative, whole, some fraction, exponent, hwhole, ?_, hsome⟩, rfl, ?_⟩
      · rintro _ ⟨⟩
        exact hfraction
      · rw [Spelling.unsigned, Spelling.pointChars, Spelling.powerChars, ← hexponent,
          Option.elim_some, List.cons_append, ← hafter]
        exact hcs
  · -- no point, so the digits are all before it
    split at h
    · exact absurd h (by simp)
    · rename_i hdigit
      rw [Option.isSome_map] at h
      obtain ⟨exponent, hexponent⟩ := exists_exponent h
      have hsome : whole ≠ [] := by
        simpa [hnil] using hdigit
      refine ⟨⟨negative, whole, none, exponent, hwhole, by simp, .inl hsome⟩, rfl, ?_⟩
      rw [Spelling.unsigned, Spelling.pointChars, Spelling.powerChars, ← hexponent,
        Option.elim_none, List.nil_append]
      exact hcs

/-- **What passes the test for numbers is a spelling with blanks around it.** -/
theorem exists_trimChars_eq {s : String} (h : isNumericText s = true) :
    ∃ m : Spelling, trimChars s.toList = m.chars := by
  rw [isNumericText] at h
  unfold dropMinus at h
  split at h
  · rename_i cs hcs
    obtain ⟨m, hnegative, rfl⟩ := exists_of_decimalOf? h true
    exact ⟨m, by rw [hcs, Spelling.chars, hnegative]; rfl⟩
  · obtain ⟨m, hnegative, hcs⟩ := exists_of_decimalOf? h false
    exact ⟨m, by rw [hcs, Spelling.chars, hnegative]; rfl⟩

/-- **What passes the test for numbers and has no blanks around it is a spelling.** -/
theorem exists_spelling {s : String} (hnumeric : isNumericText s = true) (htrim : trim s = s) :
    ∃ m : Spelling, s.toList = m.chars := by
  have hchars : trimChars s.toList = s.toList := by
    simpa [trim] using congrArg String.toList htrim
  rw [← hchars]
  exact exists_trimChars_eq hnumeric

end Eligibility.Number

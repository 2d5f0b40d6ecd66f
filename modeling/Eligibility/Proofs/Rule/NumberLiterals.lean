import Eligibility.Proofs.Number.Conversion
import Eligibility.Proofs.Rule.RoundTrip

/-!
# Numbers as literals of a rule

Two grammars say what a number is: the test for numbers, by which texts and numbers are compared,
and the scanner, which cuts the literals out of a rule. The scanner knows fewer spellings. A number
that it does not know is not refused: the scanner drops the minus and the point, and what is left
is cut into words. This module says for every spelling what becomes of it behind `a = `:

* a *plain* spelling is one token and is read as the number that it is (`scanFrom_plain`);
* a *broken* spelling makes more than one token, so that the rule is refused (`scanFrom_broken`);
* of every other spelling only the digits are left, and another number is read in silence
  (`scanFrom_stripped`).

`ofText?_numberLiteral` puts the three together for every text that passes the test. Where a token
that comes of it is an integer with too many digits, the rule is not read for that reason.
-/

namespace Eligibility

open Text Token Number

namespace Number.Spelling

variable (m : Spelling)

/-- A numeral: digits, and digits behind the point if there is one, and no power of ten. -/
def IsNumeral : Prop := m.whole ≠ [] ∧ m.fraction ≠ some [] ∧ m.exponent = none

/-- A numeral, or digits with a power of ten and with no sign and no point anywhere. -/
def IsPlain : Prop :=
  m.IsNumeral ∨
    (m.negative = false ∧ m.fraction = none ∧ ∀ e ∈ m.exponent, e.sign = none)

/-- The power of ten has a sign, or the digits in front of it have a point among or behind them. -/
def IsBroken : Prop :=
  ∃ e ∈ m.exponent, e.sign ≠ none ∨ (m.whole ≠ [] ∧ m.fraction ≠ none)

/-- A numeral in its parts. -/
def numeral (h : m.IsNumeral) : Numeral where
  negative := m.negative
  whole := m.whole
  fraction := m.fraction.getD []
  whole_ne_nil := h.1
  isDigit_of_mem_whole := m.isDigit_of_mem_whole
  isDigit_of_mem_fraction := by
    cases hfraction : m.fraction with
    | none => simp
    | some ds => exact m.isDigit_of_mem_fraction ds hfraction

theorem chars_numeral (h : m.IsNumeral) : (m.numeral h).chars = m.chars := by
  have hunsigned : (m.numeral h).unsigned = m.unsigned := by
    have hpower : m.powerChars = [] := by rw [powerChars, h.2.2, Option.elim_none]
    rw [unsigned, pointChars, hpower]
    show (if (m.fraction.getD []).isEmpty then m.whole else m.whole ++ '.' :: m.fraction.getD []) = _
    cases hfraction : m.fraction with
    | none => simp
    | some ds =>
        have hds : ds ≠ [] := by
          rintro rfl
          exact h.2.1 hfraction
        simp [hds]
  rw [Numeral.chars, chars, hunsigned]
  rfl

end Number.Spelling

namespace Number.Exponent

variable (e : Exponent)

/-- The power of ten as far as its sign. -/
def word : List Char :=
  e.mark :: match e.sign with
    | none => e.digits
    | some _ => []

/-- The power of ten from its sign on. -/
def afterWord : List Char :=
  match e.sign with
  | none => []
  | some c => c :: e.digits

theorem word_append_afterWord : e.word ++ e.afterWord = e.chars := by
  unfold word afterWord chars
  cases e.sign <;> simp

theorem mark_spec :
    isWordChar e.mark = true ∧ isDigit e.mark = false ∧
      ∀ op : Connective, e.mark ∉ op.keyword.toList := by
  rcases e.isMark with h | h
  · rw [h]
    exact ⟨by decide, by decide, fun op => by cases op <;> decide⟩
  · rw [h]
    exact ⟨by decide, by decide, fun op => by cases op <;> decide⟩

theorem isWordChar_of_mem_word {c : Char} (h : c ∈ e.word) : isWordChar c = true := by
  rcases List.mem_cons.mp h with rfl | h
  · exact e.mark_spec.1
  · cases hsign : e.sign with
    | none =>
        rw [hsign] at h
        exact isWordChar_of_isDigit (e.isDigit_of_mem_digits c h)
    | some c =>
        rw [hsign] at h
        exact absurd h List.not_mem_nil

/-- The word ends in front of the sign. -/
theorem isWordChar_head?_afterWord : ∀ c ∈ e.afterWord.head?, isWordChar c = false := by
  unfold afterWord
  cases hsign : e.sign with
  | none => simp
  | some c =>
      intro d hd
      obtain rfl : c = d := by simpa using hd
      rcases e.isSign c hsign with rfl | rfl <;> decide

end Number.Exponent

namespace Token

variable {ds after : List Char}

/-! ## Where no number is cut out -/

/-- Digits that go on in a word are no number. -/
theorem unsignedNumber?_of_word (hds : ∀ c ∈ ds, isDigit c = true) {c : Char}
    (hword : isWordChar c = true) (hdigit : isDigit c = false) (cs : List Char) :
    unsignedNumber? (ds ++ c :: cs) = none := by
  have hdigits : leadingDigits (ds ++ c :: cs) = ds :=
    takeWhile_append_of_head hds (by simpa using hdigit)
  have hpoint : c ≠ '.' := by
    rintro rfl
    exact absurd hword (by decide)
  simp [unsignedNumber?, hdigits, hpoint, endsNumber, hword]

/-- Digits and a point are no number unless there are more digits and the number may end behind
them. -/
theorem unsignedNumber?_of_point (hds : ∀ c ∈ ds, isDigit c = true) {fraction : List Char}
    (hfraction : ∀ c ∈ fraction, isDigit c = true) (hafter : ∀ c ∈ after.head?, isDigit c = false)
    (hstop : fraction = [] ∨ endsNumber after = false) :
    unsignedNumber? (ds ++ '.' :: (fraction ++ after)) = none := by
  have hdigits : leadingDigits (ds ++ '.' :: (fraction ++ after)) = ds :=
    takeWhile_append_of_head hds (by simp; decide)
  have hmore : leadingDigits (fraction ++ after) = fraction :=
    takeWhile_append_of_head hfraction hafter
  by_cases hnil : fraction = []
  · subst hnil
    rw [List.nil_append] at hdigits hmore ⊢
    simp [unsignedNumber?, hdigits, hmore, endsNumber]
  · simp [unsignedNumber?, hdigits, hmore, hnil, hstop.resolve_left hnil]

theorem number?_of_digits (hds : ∀ c ∈ ds, isDigit c = true) (hne : ds ≠ [])
    (cs : List Char) : number? (ds ++ cs) = unsignedNumber? (ds ++ cs) := by
  obtain ⟨d, ds, rfl⟩ := List.exists_cons_of_ne_nil hne
  have hminus := Numeral.ne_minus_of_isDigit (hds d List.mem_cons_self)
  unfold number?
  split
  · exact absurd (List.cons.inj ‹_›).1 hminus
  · rfl

/-! ## Words with digits -/

/-- A word with a character that is in neither keyword is a literal. -/
theorem wordKind_of_mem {word : List Char} {c : Char} (hc : c ∈ word)
    (hkeyword : ∀ op : Connective, c ∉ op.keyword.toList) :
    wordKind word = if isNumericText (String.ofList word) then .number else .name := by
  cases hop : Connective.ofKeyword? (String.ofList word) with
  | none => simp [wordKind, hop]
  | some op =>
      exfalso
      have heq := keyword_of_ofKeyword? hop
      apply hkeyword op
      rw [← heq, String.toList_ofList]
      exact hc

theorem not_mem_keyword_of_isDigit {c : Char} (h : isDigit c = true) (op : Connective) :
    c ∉ op.keyword.toList := by
  intro hmem
  have hkeyword : ∀ c ∈ op.keyword.toList, isDigit c = false := by
    cases op <;> simp [Connective.keyword] <;> decide
  exact absurd h (by simp [hkeyword c hmem])

/-! ## Digits and powers of ten as tokens -/

theorem isNumericText_of_digits (hds : ∀ c ∈ ds, isDigit c = true) (hne : ds ≠ []) :
    isNumericText (String.ofList ds) = true :=
  Numeral.isNumericText_chars ⟨false, ds, [], hne, hds, by simp⟩

theorem scanFrom_numeral (m : Numeral) (position : Nat) :
    scanFrom position m.chars = [⟨.number, String.ofList m.chars, position⟩] :=
  (IsLexeme.numeral m).scanFrom_eq position

/-- Digits in front of a point are a number if nothing larger is. -/
theorem lexeme?_digits_point (hds : ∀ c ∈ ds, isDigit c = true) (hne : ds ≠ []) {cs : List Char}
    (hnone : unsignedNumber? (ds ++ '.' :: cs) = none) :
    lexeme? (ds ++ '.' :: cs) = some (.number, ds) := by
  obtain ⟨d, hd⟩ := List.exists_mem_of_ne_nil ds hne
  rw [lexeme?_word hne (fun c hc => isWordChar_of_isDigit (hds c hc)) (by simp; decide)
    (by rw [number?_of_digits hds hne, hnone]),
    wordKind_of_mem hd (not_mem_keyword_of_isDigit (hds d hd)),
    if_pos (isNumericText_of_digits hds hne)]

/-- Digits with a power of ten are one word as far as the sign. -/
theorem lexeme?_power (hds : ∀ c ∈ ds, isDigit c = true) (e : Exponent) :
    lexeme? (ds ++ e.chars) = some (wordKind (ds ++ e.word), ds ++ e.word) := by
  obtain ⟨hmark, hdigit, -⟩ := e.mark_spec
  have hword : ∀ c ∈ ds ++ e.word, isWordChar c = true := by
    intro c hc
    rcases List.mem_append.mp hc with hc | hc
    · exact isWordChar_of_isDigit (hds c hc)
    · exact e.isWordChar_of_mem_word hc
  -- no number is cut out in front of the mark, because the digits go on in the word
  have hnumber : number? (ds ++ e.chars) = none := by
    by_cases hne : ds = []
    · have hminus : e.mark ≠ '-' := by
        intro heq
        rw [heq] at hmark
        exact absurd hmark (by decide)
      rw [hne, List.nil_append, Exponent.chars]
      exact number?_eq_none hdigit hminus _
    · rw [number?_of_digits hds hne]
      exact unsignedNumber?_of_word hds hmark hdigit _
  rw [← Exponent.word_append_afterWord, ← List.append_assoc] at hnumber ⊢
  exact lexeme?_word (by simp [Exponent.word]) hword e.isWordChar_head?_afterWord hnumber

-- the mark is in neither keyword
theorem wordKind_power (ds : List Char) (e : Exponent) :
    wordKind (ds ++ e.word) =
      if isNumericText (String.ofList (ds ++ e.word)) then .number else .name :=
  wordKind_of_mem (c := e.mark) (by simp [Exponent.word]) e.mark_spec.2.2

theorem isLiteral_wordKind_power (ds : List Char) (e : Exponent) :
    (wordKind (ds ++ e.word)).isLiteral = true := by
  rw [wordKind_power]
  split <;> rfl

/-- A word with the mark of a power of ten is no integer, so its digits are never too many. -/
theorem converts_power (hds : ∀ c ∈ ds, isDigit c = true) (e : Exponent) (position : Nat) :
    Converts ⟨wordKind (ds ++ e.word), String.ofList (ds ++ e.word), position⟩ := by
  obtain ⟨hmark, hdigit, -⟩ := e.mark_spec
  have hblank : ∀ c ∈ ds ++ e.word, isBlank c = false := by
    intro c hc
    rcases List.mem_append.mp hc with hc | hc
    · exact isBlank_of_isDigit (hds c hc)
    · rcases List.mem_cons.mp hc with rfl | hc
      · rcases e.isMark with h | h <;> rw [h] <;> decide
      · refine isBlank_of_isDigit (e.isDigit_of_mem_digits c ?_)
        cases hsign : e.sign <;> simp_all
  have hminus : dropMinus (ds ++ e.word) = ds ++ e.word := by
    unfold dropMinus
    split
    · rename_i heq
      have hmem : '-' ∈ ds ++ e.word := by simp [heq]
      have hword : isWordChar '-' = true := by
        rcases List.mem_append.mp hmem with hc | hc
        · exact isWordChar_of_isDigit (hds _ hc)
        · exact e.isWordChar_of_mem_word hc
      exact absurd hword (by decide)
    · rfl
  intro hkind
  have hnumeric : isNumericText (String.ofList (ds ++ e.word)) = true := by
    by_contra hnot
    have hname : wordKind (ds ++ e.word) = .name := by rw [wordKind_power, if_neg hnot]
    cases hname.symm.trans hkind
  refine (read_of_isNumericText hnumeric).resolve_right ?_
  rintro ⟨count, -, hread⟩
  have hdigits := (digits_of_read_error hread).1
  rw [String.toList_ofList, trimChars_of_not_isBlank hblank, hminus] at hdigits
  have hmark := hdigits e.mark (by simp [Exponent.word])
  exact absurd hmark (by simp [hdigit])

theorem exists_scanFrom_power (hds : ∀ c ∈ ds, isDigit c = true) (e : Exponent) (position : Nat) :
    ∃ first, first.kind.isLiteral = true ∧ first.Converts ∧
      scanFrom position (ds ++ e.chars) =
        first :: scanFrom (position + (ds ++ e.word).length) e.afterWord := by
  have hlexeme := lexeme?_power hds e
  rw [← Exponent.word_append_afterWord, ← List.append_assoc] at hlexeme ⊢
  exact ⟨_, isLiteral_wordKind_power ds e, converts_power hds e position,
    scanFrom_lexeme hlexeme position⟩

/-- The digits of a power of ten with a sign are a number of their own. -/
theorem exists_scanFrom_afterWord {e : Exponent} (h : e.sign ≠ none) (position : Nat) :
    ∃ token, token.kind = .number ∧ scanFrom position e.afterWord = [token] := by
  cases hsign : e.sign with
  | none => exact absurd hsign h
  | some c =>
      have hrest : e.afterWord = c :: e.digits := by rw [Exponent.afterWord, hsign]
      have hscan : ∀ negative position, scanFrom position (Binary64.signed negative e.digits) =
          [⟨.number, _, position⟩] := fun negative => scanFrom_numeral
        ⟨negative, e.digits, [], e.digits_ne_nil, e.isDigit_of_mem_digits, by simp⟩
      rw [hrest]
      -- a minus belongs to the number, a plus is dropped
      rcases e.isSign c hsign with rfl | rfl
      · exact ⟨_, rfl, hscan true position⟩
      · rw [scanFrom_skip (lexeme?_plus _)]
        exact ⟨_, rfl, hscan false (position + 1)⟩

/-- The tokens begin with two literals in a row. The first of them is read, or it is the number that
consists of these digits. -/
def TwoLiterals (digits : List Char) (tokens : List Token) : Prop :=
  ∃ first second more, tokens = first :: second :: more ∧ first.kind.isLiteral = true ∧
    second.kind.isLiteral = true ∧
    (first.Converts ∨ first.kind = .number ∧ first.lexeme = String.ofList digits)

/-- Digits with a signed power of ten make a word and a number. -/
theorem scanFrom_signed (hds : ∀ c ∈ ds, isDigit c = true) {e : Exponent} (h : e.sign ≠ none)
    (digits : List Char) (position : Nat) :
    TwoLiterals digits (scanFrom position (ds ++ e.chars)) := by
  obtain ⟨first, hfirst, hconverts, hscan⟩ := exists_scanFrom_power hds e position
  obtain ⟨second, hsecond, hrest⟩ :=
    exists_scanFrom_afterWord h (position + (ds ++ e.word).length)
  rw [hrest] at hscan
  exact ⟨first, second, [], hscan, hfirst, by rw [hsecond]; rfl, .inl hconverts⟩

end Token

/-! ## What becomes of a spelling -/

namespace Number.Spelling

variable (m : Spelling)

theorem whole_ne_nil_of_fraction (h : m.fraction = none) : m.whole ≠ [] := by
  rcases m.hasDigit with hwhole | ⟨ds, hds, -⟩
  · exact hwhole
  · rw [h] at hds
    exact absurd hds (by simp)

/-- A plain spelling is one token. -/
theorem scanFrom_plain (h : m.IsPlain) (position : Nat) :
    scanFrom position m.chars = [⟨.number, String.ofList m.chars, position⟩] := by
  rcases h with h | ⟨hnegative, hfraction, hsign⟩
  · rw [← m.chars_numeral h]
    exact scanFrom_numeral _ position
  · have hwhole := m.whole_ne_nil_of_fraction hfraction
    cases hexponent : m.exponent with
    | none =>
        have hnumeral : m.IsNumeral := ⟨hwhole, by simp [hfraction], hexponent⟩
        rw [← m.chars_numeral hnumeral]
        exact scanFrom_numeral _ position
    | some e =>
        have hword : e.word = e.chars := by
          rw [Exponent.word, Exponent.chars, hsign e hexponent]
          rfl
        have hchars : m.chars = m.whole ++ e.chars := by
          simp [chars, Binary64.signed, hnegative, unsigned, pointChars, powerChars, hfraction,
            hexponent]
        have hlexeme := lexeme?_power m.isDigit_of_mem_whole e
        rw [wordKind_power, hword, ← hchars, if_pos m.isNumericText_chars] at hlexeme
        exact scanFrom_single hlexeme position

/-- Whatever is no numeral has no number at its start either. -/
theorem unsignedNumber?_unsigned (h : ¬ m.IsNumeral) : unsignedNumber? m.unsigned = none := by
  have hstop : m.exponent ≠ none → endsNumber m.powerChars = false := by
    intro hexponent
    obtain ⟨e, he⟩ := Option.ne_none_iff_exists'.mp hexponent
    rw [powerChars, he, Option.elim_some, Exponent.chars, endsNumber,
      e.mark_spec.1]
    rfl
  have hhead : ∀ c ∈ m.powerChars.head?, isDigit c = false := by
    intro c hc
    rcases m.head?_powerChars c hc with rfl | rfl <;> decide
  cases hfraction : m.fraction with
  | none =>
      have hwhole := m.whole_ne_nil_of_fraction hfraction
      obtain ⟨e, he⟩ := Option.ne_none_iff_exists'.mp fun hexponent =>
        h ⟨hwhole, by simp [hfraction], hexponent⟩
      obtain ⟨hword, hdigit, -⟩ := e.mark_spec
      rw [unsigned, pointChars, powerChars, hfraction, he]
      exact unsignedNumber?_of_word m.isDigit_of_mem_whole hword hdigit _
  | some ds =>
      have hunsigned : m.unsigned = m.whole ++ '.' :: (ds ++ m.powerChars) := by
        simp [unsigned, pointChars, hfraction]
      rw [hunsigned]
      by_cases hwhole : m.whole = []
      · -- the point comes first
        rw [hwhole]
        exact unsignedNumber?_eq_none (by decide) _
      · apply unsignedNumber?_of_point m.isDigit_of_mem_whole
          (m.isDigit_of_mem_fraction ds hfraction) hhead
        by_cases hds : ds = []
        · exact .inl hds
        · exact .inr (hstop fun hexponent => h ⟨hwhole, by simp [hfraction, hds], hexponent⟩)

theorem exists_scanFrom_unsigned (h : ¬ m.IsNumeral) (position : Nat) :
    ∃ position', scanFrom position m.chars = scanFrom position' m.unsigned := by
  unfold chars Binary64.signed
  split
  · exact ⟨_, scanFrom_skip (lexeme?_minus (m.unsignedNumber?_unsigned h)) _⟩
  · exact ⟨position, rfl⟩

/-- A spelling that is neither plain nor broken has a minus or a point. -/
theorem loses_of_not_isPlain (hplain : ¬ m.IsPlain) (hbroken : ¬ m.IsBroken) :
    m.negative = true ∨ m.fraction ≠ none := by
  refine Decidable.byContradiction fun hnone => hplain (.inr ?_)
  rw [not_or, Bool.not_eq_true, Classical.not_not] at hnone
  refine ⟨hnone.1, hnone.2, ?_⟩
  intro e he
  exact Decidable.byContradiction fun hsign => hbroken ⟨e, he, .inl hsign⟩

/-- Of a spelling that is neither plain nor broken only the digits are left, closed up. -/
theorem scanFrom_stripped (hplain : ¬ m.IsPlain) (hbroken : ¬ m.IsBroken) (position : Nat) :
    ∃ position', scanFrom position m.chars =
      [⟨.number, String.ofList m.stripped.chars, position'⟩] := by
  have hnumeral : ¬ m.IsNumeral := fun h => hplain (.inl h)
  have hsign : ∀ e ∈ m.exponent, e.sign = none := by
    intro e he
    exact Decidable.byContradiction fun hsign => hbroken ⟨e, he, .inl hsign⟩
  have hstripped : ∀ position, scanFrom position m.stripped.chars =
      [⟨.number, String.ofList m.stripped.chars, position⟩] :=
    m.stripped.scanFrom_plain (.inr ⟨rfl, rfl, hsign⟩)
  have hchars : m.stripped.chars = m.whole ++ (m.fraction.getD [] ++ m.powerChars) := by
    simp [chars, Binary64.signed, stripped, unsigned, pointChars, powerChars]
  obtain ⟨position', hscan⟩ := m.exists_scanFrom_unsigned hnumeral position
  rw [hscan]
  cases hfraction : m.fraction with
  | none =>
      have hunsigned : m.unsigned = m.stripped.chars := by
        simp [hchars, unsigned, pointChars, hfraction]
      rw [hunsigned]
      exact ⟨position', hstripped position'⟩
  | some ds =>
      by_cases hwhole : m.whole = []
      · -- nothing stands before the point, which is dropped
        have hunsigned : m.unsigned = '.' :: m.stripped.chars := by
          simp [hchars, unsigned, pointChars, hfraction, hwhole]
        rw [hunsigned, scanFrom_skip (lexeme?_point _)]
        exact ⟨position' + 1, hstripped (position' + 1)⟩
      · -- nothing stands behind the point
        have hexponent : m.exponent = none := by
          rw [Option.eq_none_iff_forall_not_mem]
          intro e he
          exact hbroken ⟨e, he, .inr ⟨hwhole, by simp [hfraction]⟩⟩
        have hds : ds = [] := by
          refine Decidable.byContradiction fun hds => hnumeral ⟨hwhole, ?_, hexponent⟩
          simp [hfraction, hds]
        have hunsigned : m.unsigned = m.whole ++ ['.'] := by
          simp [unsigned, pointChars, powerChars, hfraction, hexponent, hds]
        have hdigits : m.stripped.chars = m.whole := by
          simp [hchars, powerChars, hfraction, hexponent, hds]
        have hnone := m.unsignedNumber?_unsigned hnumeral
        rw [hunsigned] at hnone ⊢
        refine ⟨position', ?_⟩
        rw [scanFrom_lexeme (lexeme?_digits_point m.isDigit_of_mem_whole hwhole hnone), hdigits,
          scanFrom_skip (lexeme?_point _), scanFrom]

/-- A broken spelling makes more than one literal. -/
theorem scanFrom_broken (h : m.IsBroken) (position : Nat) :
    TwoLiterals m.whole (scanFrom position m.chars) := by
  obtain ⟨e, hexponent, hcase⟩ := h
  rw [Option.mem_def] at hexponent
  have hnumeral : ¬ m.IsNumeral := by
    rintro ⟨-, -, hnone⟩
    exact absurd (hexponent.symm.trans hnone) (by simp)
  obtain ⟨position', hscan⟩ := m.exists_scanFrom_unsigned hnumeral position
  rw [hscan]
  cases hfraction : m.fraction with
  | none =>
      have hunsigned : m.unsigned = m.whole ++ e.chars := by
        simp [unsigned, pointChars, powerChars, hfraction, hexponent]
      rw [hunsigned]
      have hsign : e.sign ≠ none := by simpa [hfraction] using hcase
      exact scanFrom_signed m.isDigit_of_mem_whole hsign m.whole position'
  | some ds =>
      have hds := m.isDigit_of_mem_fraction ds hfraction
      have hunsigned : m.unsigned = m.whole ++ '.' :: (ds ++ e.chars) := by
        simp [unsigned, pointChars, powerChars, hfraction, hexponent]
      by_cases hwhole : m.whole = []
      · have hsign : e.sign ≠ none := by simpa [hwhole] using hcase
        rw [hunsigned, hwhole, List.nil_append, scanFrom_skip (lexeme?_point _)]
        exact scanFrom_signed hds hsign _ (position' + 1)
      · -- the digits before the point are a number, and those behind it begin a word
        have hnone := m.unsignedNumber?_unsigned hnumeral
        rw [hunsigned] at hnone ⊢
        have hlexeme := lexeme?_digits_point m.isDigit_of_mem_whole hwhole hnone
        obtain ⟨second, hsecond, -, hmore⟩ :=
          exists_scanFrom_power hds e (position' + m.whole.length + 1)
        rw [scanFrom_lexeme hlexeme, scanFrom_skip (lexeme?_point _), hmore]
        exact ⟨_, second, _, rfl, rfl, hsecond, .inr ⟨rfl, rfl⟩⟩

end Number.Spelling

namespace Formula

variable {s : String} {maxDepth : Nat}

theorem isName_a : IsName "a".toList :=
  ⟨by decide, List.all_eq_true.mp (by decide), by decide⟩

/-- A single token behind `a = ` that spells a number is this number, unless it is too long. -/
theorem ofText?_of_spelling {m : Spelling} {position : Nat}
    (hscan : scanFrom 4 s.toList = [⟨.number, String.ofList m.chars, position⟩]) :
    (¬ m.IsOverlong → ∃ n, Number.read (String.ofList m.chars) = .ok n ∧
      ofText? ("a = " ++ s) maxDepth = .ok (.atom ⟨"a", "=", .number n⟩)) ∧
    (m.IsOverlong →
      ofText? ("a = " ++ s) maxDepth = .error (.number (.tooManyDigits m.whole.length))) := by
  have htrim : trimChars (String.ofList m.chars).toList = m.chars := by
    rw [String.toList_ofList]
    exact trimChars_of_not_isBlank fun c => m.isBlank_of_mem_chars
  have hread := m.read_of_trimChars htrim
  constructor
  · intro hshort
    rw [if_neg hshort] at hread
    have hliteral : Token.literal ⟨.number, String.ofList m.chars, position⟩ =
        .number m.number := by
      simp [Token.literal, (Number.read_eq_ok_iff.mp hread).2]
    refine ⟨m.number, hread, ?_⟩
    rw [← hliteral]
    exact ofText?_of_literal isName_a hscan rfl (fun _ => ⟨_, hread⟩) maxDepth
  · intro hlong
    rw [if_pos hlong] at hread
    exact ofText?_of_read_error isName_a hscan rfl hread maxDepth

/-- A second literal behind `a = ` is one too many, if the first one is read. -/
theorem ofText?_of_literals {digits : List Char} (hdigits : ∀ c ∈ digits, isDigit c = true)
    (h : TwoLiterals digits (scanFrom 4 s.toList)) :
    (∃ position,
      ofText? ("a = " ++ s) maxDepth = .error (.syntaxError ⟨.trailingTokens, some position⟩)) ∨
    maxDigits < digits.length ∧
      ofText? ("a = " ++ s) maxDepth = .error (.number (.tooManyDigits digits.length)) := by
  obtain ⟨first, second, more, hscan, hfirst, hsecond, hconverts⟩ := h
  have htokens : scan ("a = " ++ s) =
      ⟨.name, "a", 0⟩ :: ⟨.comparison, "=", 2⟩ :: scanFrom 4 s.toList := scan_equals isName_a s
  rw [hscan] at htokens
  by_cases hread : first.Converts
  · refine .inl ⟨second.position, ?_⟩
    rw [ofText?, htokens, Parser.parse, Parser.factor_comparison hread rfl rfl hfirst,
      Parser.after.eq_def]
    cases hkind : second.kind <;> simp_all [TokenKind.isLiteral]
  · obtain ⟨hkind, hlexeme⟩ := hconverts.resolve_left hread
    -- a number that is not read has too many digits
    have hmem : first ∈ scan ("a = " ++ s) := by simp [htokens]
    have hnumeric : isNumericText first.lexeme = true := readable_of_mem_scan hmem hkind
    rcases read_of_isNumericText hnumeric with hok | ⟨count, hlt, herror⟩
    · exact absurd (fun _ => hok) hread
    · have hplain : dropMinus digits = digits := by
        unfold dropMinus
        split
        · exact absurd (hdigits '-' (by simp)) (by decide)
        · rfl
      have htrim : trimChars digits = digits :=
        trimChars_of_not_isBlank fun c hc => isBlank_of_isDigit (hdigits c hc)
      have hcount : count = digits.length := by
        have hlength := (digits_of_read_error herror).2
        rwa [hlexeme, String.toList_ofList, htrim, hplain] at hlength
      rw [hcount] at hlt herror
      refine .inr ⟨hlt, ?_⟩
      rw [ofText?, htokens]
      exact (Parser.Ends.unreadable rfl rfl hkind herror).resume_eq

/-- **Which numbers a rule can hold.** Take a text without blanks around it that passes the test
for numbers, and the rule that compares with it. The text is a spelling, and

* if it is plain, the rule compares with the number that the text is read as;
* if it is broken, the rule is refused;
* if it is neither, its minus or its point is lost, and the rule compares with the number that the
  digits are read as when they are closed up.

Only an integer with too many digits makes an exception: where the text, what is left of it or its
first part is one, the rule is not read. -/
theorem ofText?_numberLiteral (hnumeric : isNumericText s = true) (htrim : trim s = s)
    (maxDepth : Nat) :
    (∃ m : Spelling, s.toList = m.chars) ∧
    ∀ m : Spelling, s.toList = m.chars →
      (m.IsPlain →
        (¬ m.IsOverlong → ∃ n, Number.read s = .ok n ∧
          ofText? ("a = " ++ s) maxDepth = .ok (.atom ⟨"a", "=", .number n⟩)) ∧
        (m.IsOverlong →
          ofText? ("a = " ++ s) maxDepth = .error (.number (.tooManyDigits m.whole.length)))) ∧
      (m.IsBroken →
        (∃ position,
          ofText? ("a = " ++ s) maxDepth = .error (.syntaxError ⟨.trailingTokens, some position⟩)) ∨
        maxDigits < m.whole.length ∧
          ofText? ("a = " ++ s) maxDepth = .error (.number (.tooManyDigits m.whole.length))) ∧
      (¬ m.IsPlain → ¬ m.IsBroken →
        (m.negative = true ∨ m.fraction ≠ none) ∧
        (¬ m.stripped.IsOverlong → ∃ n, Number.read (String.ofList m.stripped.chars) = .ok n ∧
          ofText? ("a = " ++ s) maxDepth = .ok (.atom ⟨"a", "=", .number n⟩)) ∧
        (m.stripped.IsOverlong → ofText? ("a = " ++ s) maxDepth =
          .error (.number (.tooManyDigits m.stripped.whole.length)))) := by
  refine ⟨exists_spelling hnumeric htrim, ?_⟩
  intro m hs
  refine ⟨?_, ?_, ?_⟩
  · intro hplain
    have hscan : scanFrom 4 s.toList = [⟨.number, String.ofList m.chars, 4⟩] := by
      rw [hs]
      exact m.scanFrom_plain hplain 4
    rw [show s = String.ofList m.chars by rw [← hs, String.ofList_toList]] at hscan ⊢
    exact ofText?_of_spelling hscan
  · intro hbroken
    have hscan := m.scanFrom_broken hbroken 4
    rw [← hs] at hscan
    exact ofText?_of_literals m.isDigit_of_mem_whole hscan
  · intro hplain hbroken
    obtain ⟨position, hscan⟩ := m.scanFrom_stripped hplain hbroken 4
    rw [← hs] at hscan
    exact ⟨m.loses_of_not_isPlain hplain hbroken, ofText?_of_spelling hscan⟩

/-- A minus and a fraction are read in a numeral. -/
theorem ofText?_numberLiteral_of_numeral :
    isNumericText "-2.5" = true ∧ trim "-2.5" = "-2.5" ∧
      ofText? "a = -2.5" 0 =
        .ok (.atom ⟨"a", "=", .number (.double (.ofRatio true 5 2))⟩) := by
  have hnumeric : isNumericText "-2.5" = true := by decide
  have htrim : trim "-2.5" = "-2.5" := by decide
  have hwhole : ∀ c ∈ ['2'], isDigit c = true := List.all_eq_true.mp (by decide)
  have hfraction : ∀ ds ∈ some ['5'], ∀ c ∈ ds, isDigit c = true := by
    rintro _ ⟨⟩
    exact List.all_eq_true.mp (by decide)
  let m : Spelling := ⟨true, ['2'], some ['5'], none, hwhole, hfraction, .inl (by simp)⟩
  have hplain : m.IsPlain := .inl ⟨by simp [m], by simp [m], rfl⟩
  have hshort : ¬ m.IsOverlong := fun hlong => absurd hlong.1 (by simp [m])
  obtain ⟨n, hn, hread⟩ := (((ofText?_numberLiteral hnumeric htrim 0).2 m rfl).1 hplain).1 hshort
  have hvalue : Number.read "-2.5" = .ok (.double (.ofRatio true 5 2)) := by decide +kernel
  obtain rfl : n = .double (.ofRatio true 5 2) := Except.ok.inj (hn.symm.trans hvalue)
  exact ⟨hnumeric, htrim, hread⟩

/-- With a power of ten the minus is lost: the text denotes a negative number, and the rule compares
with a positive one. -/
theorem not_numberLiteral_of_minus :
    isNumericText "-1e5" = true ∧ trim "-1e5" = "-1e5" ∧
      Number.read "-1e5" = .ok (.double (.ofRatio true 100000 1)) ∧
      ofText? "a = -1e5" 64 =
        .ok (.atom ⟨"a", "=", .number (.double (.ofRatio false 100000 1))⟩) ∧
      Number.equal (.double (.ofRatio false 100000 1)) (.double (.ofRatio true 100000 1)) =
        false := by
  have hvalue : Number.read "1e5" = .ok (.double (.ofRatio false 100000 1)) := by
    decide +kernel
  have hscan : scanFrom 4 "-1e5".toList = [⟨.number, "1e5", 5⟩] := by decide +kernel
  have hliteral : Token.literal ⟨.number, "1e5", 5⟩ =
      .number (.double (.ofRatio false 100000 1)) := by
    simp [Token.literal, (Number.read_eq_ok_iff.mp hvalue).2]
  have hread := ofText?_of_literal isName_a hscan rfl (fun _ => ⟨_, hvalue⟩) 64
  rw [hliteral] at hread
  exact ⟨by decide, by decide, by decide +kernel, hread, by decide +kernel⟩

end Formula

end Eligibility

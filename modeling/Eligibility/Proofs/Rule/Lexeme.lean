import Eligibility.Proofs.Number.Numeral
import Eligibility.Rule.Token

/-!
# Lexemes

`Lexical kind lexeme` says what a lexeme of each kind looks like. Whatever the text is, what is
cut out of its start does (`lexical_of_lexeme?`): a number is a numeral or a word that passes
the test for numbers, a name is a word that does not, a quoted text ends at the first quote
like the one it begins with. `IsLexeme` has one constructor for each rule that cuts something
out (`isLexeme_of_lexeme?`).

Numerals are treated in both directions, since what follows one decides whether it is cut out
at all (`number?_chars`, `exists_of_number?`).
-/

namespace Eligibility.Token

open Text

/-- A run ends in front of a text that does not carry it on. -/
theorem takeWhile_append_of_head {p : Char → Bool} {run rest : List Char}
    (hrun : ∀ c ∈ run, p c = true) (hrest : ∀ c ∈ rest.head?, p c = false) :
    (run ++ rest).takeWhile p = run := by
  rw [List.takeWhile_append_of_pos hrun]
  cases rest with
  | nil => simp
  | cons c cs => simp [hrest c rfl]

theorem drop_length_takeWhile (p : Char → Bool) (cs : List Char) :
    cs.drop (cs.takeWhile p).length = cs.dropWhile p := by
  have hdrop : (cs.takeWhile p ++ cs.dropWhile p).drop (cs.takeWhile p).length = cs.dropWhile p :=
    List.drop_left
  rwa [List.takeWhile_append_dropWhile] at hdrop

theorem of_mem_takeWhile {p : Char → Bool} {cs : List Char} {c : Char} (h : c ∈ cs.takeWhile p) :
    p c = true :=
  List.all_eq_true.mp List.all_takeWhile c h

/-! ## Numerals at the start of a text -/

/-- Behind the end of a number stands neither a digit nor a point. -/
theorem isDigit_of_endsNumber {cs : List Char} (h : endsNumber cs = true) :
    ∀ c ∈ cs.head?, isDigit c = false ∧ c ≠ '.' := by
  intro c hc
  cases cs with
  | nil => exact absurd hc (by simp)
  | cons c' cs =>
      obtain rfl : c' = c := by simpa using hc
      simp only [endsNumber, Bool.not_eq_true', Bool.or_eq_false_iff, beq_eq_false_iff_ne] at h
      refine ⟨?_, h.2⟩
      rw [Bool.eq_false_iff]
      intro hdigit
      exact absurd (isWordChar_of_isDigit hdigit) (by simp [h.1])

/-- A numeral without its sign is cut out whole. -/
theorem unsignedNumber?_unsigned (m : Number.Numeral) {rest : List Char}
    (hrest : endsNumber rest = true) :
    unsignedNumber? (m.unsigned ++ rest) = some m.unsigned := by
  have hends := isDigit_of_endsNumber hrest
  have hwhole : m.whole.isEmpty = false := by simpa using m.whole_ne_nil
  by_cases hfraction : m.fraction = []
  · have hunsigned : m.unsigned = m.whole := by simp [Number.Numeral.unsigned, hfraction]
    have hdigits : leadingDigits (m.whole ++ rest) = m.whole :=
      takeWhile_append_of_head m.isDigit_of_mem_whole fun c hc => (hends c hc).1
    simp only [unsignedNumber?, hunsigned, hdigits, List.drop_left]
    cases rest with
    | nil => simp [hwhole, endsNumber]
    | cons c cs =>
        have hpoint : c ≠ '.' := (hends c rfl).2
        simp [hwhole, hrest, hpoint]
  · have hunsigned : m.unsigned = m.whole ++ '.' :: m.fraction := by
      simp [Number.Numeral.unsigned, hfraction]
    have hdigits : leadingDigits (m.whole ++ '.' :: (m.fraction ++ rest)) = m.whole :=
      takeWhile_append_of_head m.isDigit_of_mem_whole (by simp; decide)
    have hmore : leadingDigits (m.fraction ++ rest) = m.fraction :=
      takeWhile_append_of_head m.isDigit_of_mem_fraction fun c hc => (hends c hc).1
    simp [unsignedNumber?, hunsigned, hdigits, hmore, hwhole, hfraction, hrest]

/-- The digits behind a point at the start of a text. -/
def fractionDigits : List Char → List Char
  | '.' :: after => leadingDigits after
  | _ => []

theorem isDigit_of_mem_fractionDigits {rest : List Char} {c : Char}
    (h : c ∈ fractionDigits rest) : isDigit c = true := by
  unfold fractionDigits at h
  split at h
  · exact of_mem_takeWhile h
  · exact absurd h List.not_mem_nil

/-- Digits behind a point were cut out together with it. -/
theorem exists_of_fractionDigits {rest : List Char} (h : fractionDigits rest ≠ []) :
    ∃ after, rest = '.' :: (fractionDigits rest ++ after) := by
  unfold fractionDigits at h ⊢
  split
  · rename_i after
    exact ⟨after.dropWhile isDigit, by rw [leadingDigits, List.takeWhile_append_dropWhile]⟩
  · rename_i hpoint
    split at h
    · exact absurd rfl (hpoint _)
    · exact absurd rfl h

/-- What is cut out as a number without a sign is a numeral, and it is cut where a number may
end. -/
theorem exists_of_unsignedNumber? {cs lexeme : List Char} (h : unsignedNumber? cs = some lexeme)
    (negative : Bool) : ∃ m : Number.Numeral, m.negative = negative ∧ lexeme = m.unsigned ∧
      ∃ rest, cs = lexeme ++ rest ∧ endsNumber rest = true := by
  have hwhole : leadingDigits cs ++ cs.dropWhile isDigit = cs := List.takeWhile_append_dropWhile
  have hdrop : cs.drop (leadingDigits cs).length = cs.dropWhile isDigit :=
    drop_length_takeWhile isDigit cs
  generalize hrest : cs.dropWhile isDigit = rest at hwhole hdrop
  -- the cut gets a name, so that its length does not split again in what is dropped
  obtain ⟨cut, hcut⟩ : ∃ cut, cut = (if (fractionDigits rest).isEmpty then leadingDigits cs
      else leadingDigits cs ++ '.' :: fractionDigits rest) := ⟨_, rfl⟩
  have hread : (if !(leadingDigits cs).isEmpty && endsNumber (cs.drop cut.length) then some cut
      else none) = some lexeme := by
    rw [hcut, ← h, unsignedNumber?, hdrop]
    rfl
  have hprefix : ∃ after, cs = cut ++ after := by
    by_cases hfraction : fractionDigits rest = []
    · rw [if_pos (by simpa using hfraction)] at hcut
      exact ⟨rest, by rw [hcut, hwhole]⟩
    · obtain ⟨after, hafter⟩ := exists_of_fractionDigits hfraction
      rw [if_neg (by simpa using hfraction)] at hcut
      exact ⟨after, by rw [hcut, List.append_assoc, List.cons_append, ← hafter, hwhole]⟩
  obtain ⟨after, hafter⟩ := hprefix
  have htail : cs.drop cut.length = after := by
    conv => lhs; rw [hafter]
    exact List.drop_left
  rw [htail] at hread
  split at hread
  · rename_i hends
    rw [Bool.and_eq_true, Bool.not_eq_true', List.isEmpty_eq_false_iff] at hends
    obtain rfl := Option.some.inj hread
    exact ⟨⟨negative, leadingDigits cs, fractionDigits rest, hends.1,
      fun c hc => of_mem_takeWhile hc, fun c hc => isDigit_of_mem_fractionDigits hc⟩, rfl, hcut,
      after, hafter, hends.2⟩
  · exact absurd hread (by simp)

/-- A numeral is cut out whole in front of a text that does not carry it on. -/
theorem number?_chars (m : Number.Numeral) {rest : List Char} (hrest : endsNumber rest = true) :
    number? (m.chars ++ rest) = some m.chars := by
  have hunsigned := unsignedNumber?_unsigned m hrest
  obtain ⟨c, cs, hcs, hc⟩ := m.exists_unsigned_eq
  unfold Number.Numeral.chars Number.Binary64.signed
  split
  · rw [List.cons_append, number?, hunsigned]
    rfl
  · unfold number?
    split
    · rename_i heq
      rw [hcs] at heq
      exact absurd (List.cons.inj heq).1 (Number.Numeral.ne_minus_of_isDigit hc)
    · exact hunsigned

/-- What is cut out as a number is a numeral. -/
theorem exists_of_number? {cs lexeme : List Char} (h : number? cs = some lexeme) :
    ∃ m : Number.Numeral, lexeme = m.chars ∧
      ∃ rest, cs = lexeme ++ rest ∧ endsNumber rest = true := by
  unfold number? at h
  split at h
  · rename_i cs
    obtain ⟨unsigned, hunsigned, rfl⟩ := Option.map_eq_some_iff.mp h
    obtain ⟨m, hnegative, rfl, rest, hcs, hends⟩ := exists_of_unsignedNumber? hunsigned true
    refine ⟨m, ?_, rest, by rw [List.cons_append, ← hcs], hends⟩
    simp [Number.Numeral.chars, Number.Binary64.signed, hnegative]
  · obtain ⟨m, hnegative, rfl, hrest⟩ := exists_of_unsignedNumber? h false
    refine ⟨m, ?_, hrest⟩
    simp [Number.Numeral.chars, Number.Binary64.signed, hnegative]

/-! ## What lexemes look like -/

/-- The comparison signs. -/
def signs : List String := ["<=", ">=", "<>", "!=", "=", "<", ">"]

/-- A word that is neither a keyword nor a number. -/
structure IsName (word : List Char) : Prop where
  ne_nil : word ≠ []
  isWordChar_of_mem : ∀ c ∈ word, isWordChar c = true
  wordKind_eq : wordKind word = .name

/-- What a lexeme of each kind looks like. -/
def Lexical : TokenKind → List Char → Prop
  | .name, cs => IsName cs
  | .number, cs => Number.isNumericText (String.ofList cs) = true
  | .quoted, cs => ∃ quote body, (quote = '\'' ∨ quote = '"') ∧ quote ∉ body ∧
      cs = quote :: (body ++ [quote])
  | .comparison, cs => String.ofList cs ∈ signs
  | .connective op, cs => cs = op.keyword.toList
  | .opening, cs => cs = ['(']
  | .closing, cs => cs = [')']

theorem keyword_of_ofKeyword? {s : String} {op : Connective}
    (h : Connective.ofKeyword? s = some op) : s = op.keyword := by
  unfold Connective.ofKeyword? at h
  split at h
  · rename_i hs
    obtain rfl := Option.some.inj h
    exact hs
  · split at h
    · rename_i hs
      obtain rfl := Option.some.inj h
      exact hs
    · exact absurd h (by simp)

/-- A word is of the kind that its characters make it. -/
theorem lexical_wordKind {word : List Char} (hne : word ≠ [])
    (hword : ∀ c ∈ word, isWordChar c = true) : Lexical (wordKind word) word := by
  cases hop : Connective.ofKeyword? (String.ofList word) with
  | some op =>
      have hkind : wordKind word = .connective op := by simp [wordKind, hop]
      rw [hkind]
      show word = op.keyword.toList
      rw [← keyword_of_ofKeyword? hop, String.toList_ofList]
  | none =>
      cases hnumeric : Number.isNumericText (String.ofList word) with
      | true =>
          have hkind : wordKind word = .number := by simp [wordKind, hop, hnumeric]
          rw [hkind]
          exact hnumeric
      | false =>
          have hkind : wordKind word = .name := by simp [wordKind, hop, hnumeric]
          rw [hkind]
          exact ⟨hne, hword, hkind⟩

/-- What is cut out as a comparison is one of the signs. -/
theorem mem_signs_of_comparison? {cs lexeme : List Char} (h : comparison? cs = some lexeme) :
    String.ofList lexeme ∈ signs ∧ ∃ rest, cs = lexeme ++ rest := by
  unfold comparison? at h
  split at h <;> cases h
  all_goals exact ⟨by decide, _, rfl⟩

/-- What is cut out as a quoted text ends at the first quote like the one it begins with. -/
theorem exists_of_quoted? {cs lexeme : List Char} (h : quoted? cs = some lexeme) :
    (∃ quote body, (quote = '\'' ∨ quote = '"') ∧ quote ∉ body ∧
      lexeme = quote :: (body ++ [quote])) ∧ ∃ rest, cs = lexeme ++ rest := by
  cases cs with
  | nil => exact absurd h (by simp [quoted?])
  | cons quote cs =>
      rw [quoted?] at h
      split at h
      · rename_i hquote
        simp only [Bool.and_eq_true, Bool.or_eq_true, beq_iff_eq, List.contains_iff_mem] at hquote
        obtain rfl := Option.some.inj h
        have hbody : quote ∉ cs.takeWhile (· != quote) := by
          intro hmem
          exact absurd (of_mem_takeWhile hmem) (by simp)
        refine ⟨⟨quote, _, hquote.1, hbody, rfl⟩, ?_⟩
        have hsplit : cs.takeWhile (· != quote) ++ cs.dropWhile (· != quote) = cs :=
          List.takeWhile_append_dropWhile
        cases hrest : cs.dropWhile (· != quote) with
        | nil =>
            rw [hrest, List.append_nil] at hsplit
            exact absurd (by rw [hsplit]; exact hquote.2) hbody
        | cons c rest =>
            have hc : c = quote := by
              have := List.head_dropWhile_not (p := (· != quote)) (l := cs) (by simp [hrest])
              simpa [hrest] using this
            rw [hrest, hc] at hsplit
            exact ⟨rest, by simp [hsplit]⟩
      · exact absurd h (by simp)

/-- What is cut out of a text: numerals, words, signs, parentheses and quoted texts. -/
inductive IsLexeme : TokenKind → List Char → Prop
  | numeral (m : Number.Numeral) : IsLexeme .number m.chars
  | word {word : List Char} (hne : word ≠ []) (hword : ∀ c ∈ word, isWordChar c = true) :
      IsLexeme (wordKind word) word
  | sign {sign : String} (hsign : sign ∈ signs) : IsLexeme .comparison sign.toList
  | opening : IsLexeme .opening ['(']
  | closing : IsLexeme .closing [')']
  | quoted {quote : Char} {body : List Char} (hquote : quote = '\'' ∨ quote = '"')
      (hbody : quote ∉ body) : IsLexeme .quoted (quote :: (body ++ [quote]))

theorem IsLexeme.ne_nil {kind : TokenKind} {lexeme : List Char} (h : IsLexeme kind lexeme) :
    lexeme ≠ [] := by
  cases h with
  | numeral m => exact m.chars_ne_nil
  | word hne => exact hne
  | @sign sign hsign =>
      intro hempty
      rw [String.toList_eq_nil_iff.mp hempty] at hsign
      exact absurd hsign (by decide)
  | _ => exact List.cons_ne_nil _ _

theorem IsLexeme.lexical {kind : TokenKind} {lexeme : List Char} (h : IsLexeme kind lexeme) :
    Lexical kind lexeme := by
  cases h with
  | numeral m => exact m.isNumericText_chars
  | word hne hword => exact lexical_wordKind hne hword
  | sign hsign =>
      rw [Lexical, String.ofList_toList]
      exact hsign
  | opening => rfl
  | closing => rfl
  | quoted hquote hbody => exact ⟨_, _, hquote, hbody, rfl⟩

/-- Each rule cuts a lexeme of its own sort out of the start of the text. -/
theorem isLexeme_of_lexeme? {cs lexeme : List Char} {kind : TokenKind}
    (h : lexeme? cs = some (kind, lexeme)) : IsLexeme kind lexeme ∧ ∃ rest, cs = lexeme ++ rest := by
  unfold lexeme? at h
  cases hnumber : number? cs with
  | some number =>
      simp only [hnumber, Option.some.injEq, Prod.mk.injEq] at h
      obtain ⟨rfl, rfl⟩ := h
      obtain ⟨m, rfl, rest, hcs, _⟩ := exists_of_number? hnumber
      exact ⟨.numeral m, rest, hcs⟩
  | none =>
      simp only [hnumber] at h
      split at h
      · rename_i c word hword
        simp only [Option.some.injEq, Prod.mk.injEq] at h
        obtain ⟨rfl, rfl⟩ := h
        rw [← hword]
        refine ⟨.word (by simp [hword]) fun c hc => of_mem_takeWhile hc,
          cs.dropWhile isWordChar, List.takeWhile_append_dropWhile.symm⟩
      · cases hcomparison : comparison? cs with
        | some sign =>
            simp only [hcomparison, Option.some.injEq, Prod.mk.injEq] at h
            obtain ⟨rfl, rfl⟩ := h
            obtain ⟨hsign, hrest⟩ := mem_signs_of_comparison? hcomparison
            refine ⟨?_, hrest⟩
            have hlexeme := IsLexeme.sign hsign
            rwa [String.toList_ofList] at hlexeme
        | none =>
            simp only [hcomparison] at h
            split at h
            · cases h
              exact ⟨.opening, _, rfl⟩
            · cases h
              exact ⟨.closing, _, rfl⟩
            · obtain ⟨quoted, hquoted, heq⟩ := Option.map_eq_some_iff.mp h
              cases heq
              obtain ⟨⟨quote, body, hquote, hbody, rfl⟩, hrest⟩ := exists_of_quoted? hquoted
              exact ⟨.quoted hquote hbody, hrest⟩

/-- What is cut out looks like a lexeme of its kind and stands at the start of the text. -/
theorem lexical_of_lexeme? {cs lexeme : List Char} {kind : TokenKind}
    (h : lexeme? cs = some (kind, lexeme)) :
    Lexical kind lexeme ∧ lexeme ≠ [] ∧ ∃ rest, cs = lexeme ++ rest := by
  obtain ⟨hlexeme, hrest⟩ := isLexeme_of_lexeme? h
  exact ⟨hlexeme.lexical, hlexeme.ne_nil, hrest⟩

end Eligibility.Token

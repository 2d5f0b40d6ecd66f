import Eligibility.Proofs.Rule.Grammar
import Eligibility.Proofs.Rule.Scanning

/-!
# Texts in front of a boundary

What the scanner makes of a text that stands in front of another one:

* `lexeme?_append` — in front of a boundary the lexeme that begins a text is the one that begins
  the text alone, unless the text begins with a quote that nothing in it closes;
* `ClosesQuotes` — every quote of the text is part of a token, so no such quote is ever met;
* `scanFrom_append` — such a text is cut into its own tokens, and the scan goes on behind it;
* `scanFrom_add` and `Derives.moved` — where a text begins moves its tokens and says nothing
  about the formula that they denote.
-/

namespace Eligibility

namespace Token

open Text

variable {rest : List Char}

/-! ## The lexeme at the start of a text -/

/-- A run ends within the text, or at the latest where the text in hand ends. -/
theorem takeWhile_append_of_stop {p : Char → Bool} {cs : List Char}
    (h : (∃ c ∈ cs, p c = false) ∨ ∀ c ∈ rest.head?, p c = false) :
    (cs ++ rest).takeWhile p = cs.takeWhile p := by
  induction cs with
  | nil =>
      rcases h with ⟨c, hc, -⟩ | h
      · exact absurd hc List.not_mem_nil
      · cases rest with
        | nil => rfl
        | cons c rest => exact List.takeWhile_cons_of_neg (by simp [h c rfl])
  | cons c cs ih =>
      rw [List.cons_append]
      by_cases hc : p c = true
      · rw [List.takeWhile_cons_of_pos hc, List.takeWhile_cons_of_pos hc, ih]
        refine h.imp_left fun ⟨d, hd, hstop⟩ => ⟨d, ?_, hstop⟩
        rcases List.mem_cons.mp hd with rfl | hd
        · exact absurd hc (by simp [hstop])
        · exact hd
      · rw [List.takeWhile_cons_of_neg hc, List.takeWhile_cons_of_neg hc]

theorem endsNumber_append_iff (hrest : Boundary rest) (cs : List Char) :
    endsNumber (cs ++ rest) = endsNumber cs := by
  cases cs with
  | nil => exact hrest.endsLexeme.endsNumber
  | cons c cs => rfl

theorem number?_append (hrest : Boundary rest) (cs : List Char) :
    number? (cs ++ rest) = number? cs := by
  cases hcs : number? cs with
  | some lexeme =>
      obtain ⟨m, rfl, after, rfl, hends⟩ := exists_of_number? hcs
      rw [List.append_assoc]
      exact number?_chars m (by rw [endsNumber_append_iff hrest, hends])
  | none =>
      cases hlexeme : number? (cs ++ rest) with
      | none => rfl
      | some lexeme =>
          exfalso
          obtain ⟨m, rfl, after, hsplit, hends⟩ := exists_of_number? hlexeme
          -- a numeral within the text would have been cut out of the text alone
          have hwithin : ∀ more, cs = m.chars ++ more → endsNumber more = true → False := by
            rintro more rfl hmore
            rw [number?_chars m hmore] at hcs
            exact absurd hcs (by simp)
          rcases List.append_eq_append_iff.mp hsplit with ⟨more, hm, hr⟩ | ⟨more, hw, ha⟩
          · rw [hrest.endsLexeme.eq_nil_of_numeral hm hr, List.append_nil] at hm
            exact hwithin [] (by rw [hm, List.append_nil]) rfl
          · rw [ha, endsNumber_append_iff hrest] at hends
            exact hwithin more hw hends

theorem comparison?_cons_cons (c d : Char) (cs : List Char) :
    comparison? (c :: d :: cs) = comparison? [c, d] := by
  by_cases hequal : d = '='
  · subst hequal
    by_cases c = '<' <;> by_cases c = '>' <;> by_cases c = '!' <;> by_cases c = '=' <;>
      simp_all [comparison?]
  · by_cases hgreater : d = '>'
    · subst hgreater
      by_cases c = '<' <;> by_cases c = '>' <;> by_cases c = '=' <;> simp_all [comparison?]
    · by_cases c = '<' <;> by_cases c = '>' <;> by_cases c = '=' <;> simp_all [comparison?]

theorem comparison?_append (hrest : Boundary rest) {cs : List Char} (hcs : cs ≠ []) :
    comparison? (cs ++ rest) = comparison? cs := by
  match cs, rest with
  | [], _ => exact absurd rfl hcs
  | [c], [] => rfl
  | [c], r :: rest =>
      rw [List.singleton_append, comparison?_cons_cons]
      rcases hrest r rfl with rfl | rfl <;> unfold comparison? <;> split <;> simp_all
  | c :: d :: cs, rest =>
      rw [List.cons_append, List.cons_append, comparison?_cons_cons, comparison?_cons_cons c d cs]

/-- The character is a quote of either sort. -/
def isQuote (c : Char) : Bool := c == '\'' || c == '"'

/-- A quoted text that is closed is cut out whole, whatever follows. -/
theorem quoted?_append {c : Char} {cs : List Char}
    (h : isQuote c = true → quoted? (c :: cs) ≠ none) :
    quoted? (c :: (cs ++ rest)) = quoted? (c :: cs) := by
  by_cases hc : isQuote c = true
  · have hmem : c ∈ cs := by
      refine Decidable.byContradiction fun hmem => h hc ?_
      simp [quoted?, hmem]
    have hrun : (cs ++ rest).takeWhile (· != c) = cs.takeWhile (· != c) :=
      takeWhile_append_of_stop (.inl ⟨c, hmem, by simp⟩)
    simp [quoted?, hmem, hrun]
  · rw [isQuote] at hc
    simp [quoted?, hc]

/-- **In front of a boundary a lexeme is cut out as if the text ended there**, but for a quote
that is not closed before it. -/
theorem lexeme?_append (hrest : Boundary rest) {c : Char} {cs : List Char}
    (hquote : isQuote c = true → lexeme? (c :: cs) ≠ none) :
    lexeme? (c :: (cs ++ rest)) = lexeme? (c :: cs) := by
  have hnumber : number? (c :: (cs ++ rest)) = number? (c :: cs) := number?_append hrest (c :: cs)
  have hword : (c :: (cs ++ rest)).takeWhile isWordChar = (c :: cs).takeWhile isWordChar := by
    rw [← List.cons_append]
    exact takeWhile_append_of_stop (.inr hrest.endsLexeme.isWordChar_head)
  have hcomparison : comparison? (c :: (cs ++ rest)) = comparison? (c :: cs) :=
    comparison?_append hrest (List.cons_ne_nil c cs)
  have hclosed : isQuote c = true → quoted? (c :: cs) ≠ none := by
    intro hc hnone
    apply hquote hc
    rw [lexeme?_quote (by simpa [isQuote] using hc), hnone]
    rfl
  unfold lexeme?
  rw [hnumber, hword, hcomparison, quoted?_append hclosed]
  -- only the first character is left to decide
  by_cases hopening : c = '('
  · subst hopening
    rfl
  · by_cases hclosing : c = ')'
    · subst hclosing
      rfl
    · simp [hopening, hclosing]

/-! ## Quotes within tokens -/

/-- The place lies within the token. -/
def Covers (token : Token) (place : Nat) : Prop :=
  token.position ≤ place ∧ place < token.position + token.lexeme.length

instance (token : Token) (place : Nat) : Decidable (token.Covers place) :=
  inferInstanceAs (Decidable (_ ∧ _))

/-- Every quote of a text that begins at a position lies within one of the text's tokens. -/
def ClosesQuotesFrom (position : Nat) (cs : List Char) : Prop :=
  ∀ place, ∀ h : place < cs.length, isQuote cs[place] = true →
    ∃ token ∈ scanFrom position cs, token.Covers (position + place)

/-- No quote of the text is left outside its tokens. -/
def ClosesQuotes (text : String) : Prop :=
  ∀ place, ∀ h : place < text.toList.length, isQuote text.toList[place] = true →
    ∃ token ∈ scan text, token.Covers place

instance (text : String) : Decidable (ClosesQuotes text) :=
  inferInstanceAs (Decidable (∀ place, ∀ _ : place < _, _))

theorem le_position_of_mem_scanFrom {position : Nat} {cs : List Char} {token : Token}
    (h : token ∈ scanFrom position cs) : position ≤ token.position := by
  induction position, cs using scan_induction with
  | nil => simp [scanFrom] at h
  | cut position kind lexeme rest hne hlexeme ih =>
      rw [scanFrom_lexeme hlexeme, List.mem_cons] at h
      rcases h with rfl | h
      · exact Nat.le_refl _
      · exact Nat.le_trans (Nat.le_add_right _ _) (ih h)
  | drop position c cs hlexeme ih =>
      rw [scanFrom_skip hlexeme] at h
      exact Nat.le_trans (Nat.le_add_right _ _) (ih h)

/-- Behind the first token the quotes are closed by the tokens behind it. -/
theorem ClosesQuotesFrom.of_lexeme {position : Nat} {kind : TokenKind} {lexeme : List Char}
    (hlexeme : lexeme? (lexeme ++ rest) = some (kind, lexeme))
    (h : ClosesQuotesFrom position (lexeme ++ rest)) :
    ClosesQuotesFrom (position + lexeme.length) rest := by
  intro place hplace hquote
  have hlength : lexeme.length + place < (lexeme ++ rest).length := by
    rw [List.length_append]
    omega
  have hget : (lexeme ++ rest)[lexeme.length + place] = rest[place] := by simp
  obtain ⟨token, htoken, hcovers⟩ := h (lexeme.length + place) hlength (by rw [hget, hquote])
  rw [scanFrom_lexeme hlexeme, List.mem_cons] at htoken
  rw [Nat.add_assoc]
  rcases htoken with rfl | htoken
  · -- the first token ends in front of the place
    have hlt : position + (lexeme.length + place) < position + (String.ofList lexeme).length :=
      hcovers.2
    rw [String.length_ofList] at hlt
    omega
  · exact ⟨token, htoken, hcovers⟩

/-- A character that is dropped is no quote, and the quotes behind it are closed behind it. -/
theorem ClosesQuotesFrom.of_skip {position : Nat} {c : Char} {cs : List Char}
    (hlexeme : lexeme? (c :: cs) = none) (h : ClosesQuotesFrom position (c :: cs)) :
    isQuote c = false ∧ ClosesQuotesFrom (position + 1) cs := by
  unfold ClosesQuotesFrom at h
  rw [scanFrom_skip hlexeme] at h
  constructor
  · rw [Bool.eq_false_iff]
    intro hquote
    obtain ⟨token, htoken, hle, -⟩ := h 0 (by simp) hquote
    have := le_position_of_mem_scanFrom htoken
    omega
  · intro place hplace hquote
    obtain ⟨token, htoken, hcovers⟩ := h (place + 1) (by simpa using hplace) hquote
    exact ⟨token, htoken, by rwa [Nat.add_assoc, Nat.add_comm 1 place]⟩

/-! ## The tokens of two texts -/

/-- **A text that closes its quotes is scanned by itself in front of a boundary.** -/
theorem scanFrom_append (hrest : Boundary rest) {position : Nat} {cs : List Char}
    (h : ClosesQuotesFrom position cs) :
    scanFrom position (cs ++ rest) =
      scanFrom position cs ++ scanFrom (position + cs.length) rest := by
  induction position, cs using scan_induction with
  | nil position => simp [scanFrom]
  | cut position kind lexeme after hne hlexeme ih =>
      have happend : lexeme? (lexeme ++ (after ++ rest)) = some (kind, lexeme) := by
        obtain ⟨c, cs, rfl⟩ := List.exists_cons_of_ne_nil hne
        rw [List.cons_append] at hlexeme ⊢
        rw [← List.append_assoc, lexeme?_append hrest (by simp [hlexeme]), hlexeme]
      rw [List.append_assoc, scanFrom_lexeme happend, scanFrom_lexeme hlexeme,
        ih (h.of_lexeme hlexeme), List.length_append, Nat.add_assoc, List.cons_append]
  | drop position c cs hlexeme ih =>
      -- a quote that is dropped would not be covered, so nothing here waits for a closing one
      obtain ⟨hquote, hbehind⟩ := h.of_skip hlexeme
      have happend : lexeme? (c :: (cs ++ rest)) = none := by
        rw [lexeme?_append hrest (by simp [hquote]), hlexeme]
      rw [List.cons_append, scanFrom_skip happend, scanFrom_skip hlexeme, ih hbehind,
        List.length_cons, Nat.add_right_comm, Nat.add_assoc]

/-- The token, so many places further on. -/
def moved (distance : Nat) (token : Token) : Token :=
  { token with position := token.position + distance }

/-- A text that begins further on has its tokens further on. -/
theorem scanFrom_add (position distance : Nat) (cs : List Char) :
    scanFrom (position + distance) cs = (scanFrom position cs).map (moved distance) := by
  induction position, cs using scan_induction with
  | nil => simp [scanFrom]
  | cut position kind lexeme rest hne hlexeme ih =>
      rw [scanFrom_lexeme hlexeme, scanFrom_lexeme hlexeme, List.map_cons, ← ih,
        Nat.add_right_comm]
      rfl
  | drop position c cs hlexeme ih =>
      rw [scanFrom_skip hlexeme, scanFrom_skip hlexeme, ← ih, Nat.add_right_comm]

theorem ClosesQuotes.from {text : String} (h : ClosesQuotes text) (position : Nat) :
    ClosesQuotesFrom position text.toList := by
  intro place hplace hquote
  obtain ⟨token, htoken, hle, hlt⟩ := h place hplace hquote
  have hscan := scanFrom_add 0 position text.toList
  rw [Nat.zero_add] at hscan
  refine ⟨token.moved position, ?_, ?_⟩
  · rw [hscan]
    exact List.mem_map_of_mem htoken
  · constructor <;> simp only [moved] <;> omega

end Token

/-- Where tokens stand says nothing about the formula that they denote. -/
theorem Derives.moved {phrase : Phrase} {depth : Nat} {tokens : List Token} {f : Formula}
    (h : Derives phrase depth tokens f) (distance : Nat) :
    Derives phrase depth (tokens.map (Token.moved distance)) f := by
  induction h with
  | @comparison _ name sign value hname hsign hvalue =>
      have hmoved : Token.comparison (name.moved distance) (sign.moved distance)
          (value.moved distance) = Token.comparison name sign value := rfl
      rw [← hmoved]
      exact .comparison hname hsign hvalue
  | group hopening _ hclosing ih =>
      rw [List.map_cons, List.map_append, List.map_singleton]
      exact .group hopening ih hclosing
  | single _ ih => exact .single ih
  | link _ hkeyword _ ihchain ihpart =>
      rw [List.map_append, List.map_cons]
      exact .link ihchain hkeyword ihpart

end Eligibility

import Eligibility.Proofs.Rule.Concatenation

/-!
# What a scan keeps of a text

The tokens of a text stand in it one behind the other, and what lies between them could not begin
a token:

* `pairwise_scanFrom` and `exists_of_mem_scanFrom` — the tokens are disjoint pieces of the text,
  from left to right;
* `lexeme?_of_uncovered` — outside the tokens no lexeme begins at any character, which says a good
  deal about the character (`isLost_of_lexeme?`);
* `exists_covers_pair` — no token begins or ends inside a word, so that neighbours in a word share
  their token.

All of them are inductions along the scan: a lexeme is cut out, or a character is dropped.
-/

namespace Eligibility.Token

open Text

variable {rest : List Char}

/-! ## Tokens as pieces of the text -/

/-- The token ends before the other one begins. -/
def EndsBefore (token other : Token) : Prop :=
  token.position < other.position ∧ token.position + token.lexeme.length ≤ other.position

/-- The tokens of a scan are disjoint and come from left to right. -/
theorem pairwise_scanFrom (position : Nat) (cs : List Char) :
    (scanFrom position cs).Pairwise EndsBefore := by
  induction position, cs using scan_induction with
  | nil => simp [scanFrom]
  | cut position kind lexeme rest hne hlexeme ih =>
      rw [scanFrom_lexeme hlexeme, List.pairwise_cons]
      refine ⟨fun token htoken => ?_, ih⟩
      have hle := le_position_of_mem_scanFrom htoken
      have hpos : 0 < lexeme.length := List.length_pos_iff.mpr hne
      exact ⟨by show position < _; omega, by rw [String.length_ofList]; exact hle⟩
  | drop position c cs hlexeme ih =>
      rw [scanFrom_skip hlexeme]
      exact ih

/-- A token is a piece of the text, at the place where it says. -/
theorem exists_of_mem_scanFrom {position : Nat} {cs : List Char} {token : Token}
    (h : token ∈ scanFrom position cs) : token.lexeme ≠ "" ∧ ∃ front back,
      cs = front ++ (token.lexeme.toList ++ back) ∧ token.position = position + front.length := by
  induction position, cs using scan_induction with
  | nil => simp [scanFrom] at h
  | cut position kind lexeme rest hne hlexeme ih =>
      rw [scanFrom_lexeme hlexeme, List.mem_cons] at h
      rcases h with rfl | h
      · exact ⟨by simpa using hne, [], rest, by simp, rfl⟩
      · obtain ⟨hnonempty, front, back, rfl, hposition⟩ := ih h
        refine ⟨hnonempty, lexeme ++ front, back, by simp, ?_⟩
        rw [hposition, List.length_append, Nat.add_assoc]
  | drop position c cs hlexeme ih =>
      rw [scanFrom_skip hlexeme] at h
      obtain ⟨hnonempty, front, back, rfl, hposition⟩ := ih h
      refine ⟨hnonempty, c :: front, back, rfl, ?_⟩
      rw [hposition, List.length_cons, Nat.add_right_comm, Nat.add_assoc]

/-! ## What is lost -/

/-- A character and what follows it that can begin no token: no character of a word, no
parenthesis, no comparison sign, and no quote that is closed later. -/
structure IsLost (c : Char) (rest : List Char) : Prop where
  isWordChar_eq : isWordChar c = false
  not_mem : c ∉ ['(', ')', '=', '<', '>']
  not_unequal : ¬ (c = '!' ∧ rest.head? = some '=')
  not_closed : ¬ (isQuote c = true ∧ c ∈ rest)

/-- A character at which no lexeme begins is lost. -/
theorem isLost_of_lexeme? {c : Char} {cs : List Char} (h : lexeme? (c :: cs) = none) :
    IsLost c cs := by
  have hnumber : number? (c :: cs) = none := by
    cases hn : number? (c :: cs) with
    | none => rfl
    | some lexeme => simp [lexeme?, hn] at h
  have hword : isWordChar c = false := by
    cases hw : isWordChar c with
    | false => rfl
    | true => simp [lexeme?, hnumber, hw] at h
  have hcomparison : comparison? (c :: cs) = none := by
    cases hs : comparison? (c :: cs) with
    | none => rfl
    | some lexeme => simp [lexeme?, hnumber, hword, hs] at h
  have hopening : c ≠ '(' := by
    rintro rfl
    exact absurd (h.symm.trans (lexeme?_opening cs)) (by simp)
  have hclosing : c ≠ ')' := by
    rintro rfl
    exact absurd (h.symm.trans (lexeme?_closing cs)) (by simp)
  refine ⟨hword, ?_, ?_, ?_⟩
  · -- a comparison sign is never left over, even if what follows does not carry it on
    simp only [List.mem_cons, List.not_mem_nil, or_false, not_or]
    refine ⟨hopening, hclosing, ?_, ?_, ?_⟩ <;> rintro rfl <;>
      · unfold comparison? at hcomparison
        split at hcomparison <;> simp_all
  · rintro ⟨rfl, hhead⟩
    obtain ⟨tail, rfl⟩ : ∃ tail, cs = '=' :: tail := by
      cases cs with
      | nil => simp at hhead
      | cons d tail => exact ⟨tail, by simpa using hhead⟩
    exact absurd hcomparison (by simp [comparison?])
  · rintro ⟨hquote, hmem⟩
    rw [isQuote] at hquote
    rw [lexeme?_quote (by simpa using hquote), quoted?] at h
    simp [hmem, hquote] at h

/-- A character outside all tokens is one at which no lexeme begins. -/
theorem lexeme?_of_uncovered {position : Nat} {cs : List Char} {place : Nat}
    (hplace : place < cs.length)
    (h : ∀ token ∈ scanFrom position cs, ¬ token.Covers (position + place)) :
    lexeme? (cs.drop place) = none := by
  induction position, cs using scan_induction generalizing place with
  | nil => simp at hplace
  | cut position kind lexeme rest hne hlexeme ih =>
      rw [scanFrom_lexeme hlexeme] at h
      -- the place lies behind the lexeme, which is a token
      have hle : lexeme.length ≤ place := by
        have hcovers := h _ List.mem_cons_self
        rw [Covers, String.length_ofList] at hcovers
        simp only at hcovers
        omega
      obtain ⟨behind, rfl⟩ := Nat.exists_eq_add_of_le hle
      rw [List.length_append] at hplace
      have hdrop : (lexeme ++ rest).drop (lexeme.length + behind) = rest.drop behind := by
        rw [← List.drop_drop, List.drop_left]
      rw [hdrop]
      apply ih (by omega)
      intro token htoken
      rw [Nat.add_assoc]
      exact h token (List.mem_cons_of_mem _ htoken)
  | drop position c cs hlexeme ih =>
      rw [scanFrom_skip hlexeme] at h
      cases place with
      | zero => exact hlexeme
      | succ place =>
          apply ih (by simpa using hplace)
          intro token htoken
          rw [Nat.add_assoc, Nat.add_comm 1]
          exact h token htoken

/-! ## Words -/

/-- Signs, parentheses and quoted texts do not end with a character of a word. -/
theorem isWordChar_last_of_lexical {kind : TokenKind} {front : List Char} {last : Char}
    (h : Lexical kind (front ++ [last]))
    (hkind : kind = .comparison ∨ kind = .opening ∨ kind = .closing ∨ kind = .quoted) :
    isWordChar last = false := by
  rcases hkind with rfl | rfl | rfl | rfl
  · have hsign : ∀ sign ∈ signs, ∀ c ∈ sign.toList.getLast?, isWordChar c = false := by
      intro sign hsign
      simp only [signs, List.mem_cons, List.not_mem_nil, or_false] at hsign
      rcases hsign with rfl | rfl | rfl | rfl | rfl | rfl | rfl <;>
        · rintro c ⟨⟩
          decide
    exact hsign _ h last (by simp)
  · obtain rfl : last = '(' := by simpa using congrArg List.getLast? h
    decide
  · obtain rfl : last = ')' := by simpa using congrArg List.getLast? h
    decide
  · obtain ⟨quote, body, hquote, -, hlexeme⟩ := h
    rw [← List.cons_append] at hlexeme
    obtain rfl : last = quote := by simpa using (List.append_inj' hlexeme rfl).2
    rcases hquote with rfl | rfl <;> decide

/-- A lexeme that ends with a character of a word ends where the word does. -/
theorem isWordChar_head_of_lexeme? {kind : TokenKind} {front : List Char} {last : Char}
    (h : lexeme? (front ++ [last] ++ rest) = some (kind, front ++ [last]))
    (hlast : isWordChar last = true) : ∀ c ∈ rest.head?, isWordChar c = false := by
  have hlexical := (lexical_of_lexeme? h).1
  have hkind : ¬ (kind = .comparison ∨ kind = .opening ∨ kind = .closing ∨ kind = .quoted) := by
    intro hkind
    exact absurd (isWordChar_last_of_lexical hlexical hkind) (by simp [hlast])
  simp only [not_or] at hkind
  obtain ⟨hcomparison, hopening, hclosing, hquoted⟩ := hkind
  unfold lexeme? at h
  split at h
  · -- a number, which is cut out only where a number may end
    rename_i lexeme hnumber
    obtain ⟨m, -, after, hsplit, hends⟩ := exists_of_number? hnumber
    obtain ⟨-, rfl⟩ : .number = kind ∧ lexeme = front ++ [last] := by simpa using h
    obtain rfl := List.append_cancel_left hsplit
    intro c hc
    cases rest with
    | nil => simp at hc
    | cons d rest =>
        obtain rfl : d = c := by simpa using hc
        simp only [endsNumber, Bool.not_eq_true', Bool.or_eq_false_iff] at hends
        exact hends.1
  · split at h
    · -- a word, which is the whole run of its characters
      rename_i d word hrun
      obtain ⟨-, hlexeme⟩ : wordKind (d :: word) = kind ∧ d :: word = front ++ [last] := by
        simpa using h
      rw [hlexeme] at hrun
      intro c hc
      cases rest with
      | nil => simp at hc
      | cons e rest =>
          obtain rfl : e = c := by simpa using hc
          rw [Bool.eq_false_iff]
          intro he
          have hall : ∀ c ∈ front ++ [last], isWordChar c = true := by
            intro c hc
            rw [← hrun] at hc
            exact of_mem_takeWhile hc
          rw [List.takeWhile_append_of_pos hall, List.takeWhile_cons_of_pos he] at hrun
          simpa using congrArg List.length hrun
    · exfalso
      split at h
      · simp_all
      · split at h
        · simp_all
        · simp_all
        · obtain ⟨_, _, heq⟩ := Option.map_eq_some_iff.mp h
          simp_all

/-- Two neighbours in a word lie in one token. -/
theorem exists_covers_pair {cs : List Char} (position place : Nat)
    (hplace : place + 1 < cs.length) (hword : isWordChar cs[place] = true)
    (hnext : isWordChar cs[place + 1] = true) : ∃ token ∈ scanFrom position cs,
      token.Covers (position + place) ∧ token.Covers (position + place + 1) := by
  induction position, cs using scan_induction generalizing place with
  | nil => simp at hplace
  | cut position kind lexeme rest hne hlexeme ih =>
      rw [scanFrom_lexeme hlexeme]
      rcases Nat.lt_trichotomy (place + 1) lexeme.length with hlt | heq | hgt
      · -- both lie in the lexeme
        refine ⟨_, List.mem_cons_self, ?_, ?_⟩ <;>
          · rw [Covers, String.length_ofList]
            simp only
            omega
      · -- the lexeme would end between them
        exfalso
        obtain ⟨front, last, rfl⟩ : ∃ front last, lexeme = front ++ [last] :=
          ⟨_, _, (List.dropLast_concat_getLast hne).symm⟩
        obtain rfl : place = front.length := by simpa using heq
        have hlast : isWordChar last = true := by simpa using hword
        have hhead := isWordChar_head_of_lexeme? hlexeme hlast
        cases rest with
        | nil => simp at hplace
        | cons c rest =>
            have hc : isWordChar c = true := by simpa using hnext
            exact absurd hc (by simp [hhead c rfl])
      · obtain ⟨behind, rfl⟩ : ∃ behind, place = lexeme.length + behind :=
          ⟨place - lexeme.length, by omega⟩
        rw [List.length_append] at hplace
        obtain ⟨token, htoken, hcovers⟩ := ih behind (by omega) (by simpa using hword)
          (by simpa [Nat.add_assoc] using hnext)
        rw [Nat.add_assoc] at hcovers
        exact ⟨token, List.mem_cons_of_mem _ htoken, hcovers⟩
  | drop position c cs hlexeme ih =>
      rw [scanFrom_skip hlexeme]
      cases place with
      | zero => exact absurd hword (by simp [(isLost_of_lexeme? hlexeme).isWordChar_eq])
      | succ place =>
          obtain ⟨token, htoken, hcovers⟩ := ih place (by simpa using hplace)
            (by simpa using hword) (by simpa using hnext)
          rw [Nat.add_assoc position, Nat.add_comm 1] at hcovers
          exact ⟨token, htoken, hcovers⟩

/-! ## Main result -/

/-- **A scan loses only what can begin no token, and splits no word.** Of every text

* the tokens are disjoint pieces, none of them empty, from left to right;
* a character outside the tokens belongs to no word, is neither a parenthesis nor a comparison sign
  nor the first half of one, and is not a quote that comes once more;
* two neighbours that both belong to a word lie in the same token.

So a keyword within a longer word is none, and digits that are glued to a word stay with it. -/
theorem scan_covers (text : String) :
    (scan text).Pairwise EndsBefore ∧
    (∀ token ∈ scan text, token.lexeme ≠ "" ∧ ∃ front back,
      text.toList = front ++ (token.lexeme.toList ++ back) ∧ token.position = front.length) ∧
    (∀ place, ∀ h : place < text.toList.length, (∀ token ∈ scan text, ¬ token.Covers place) →
      IsLost text.toList[place] (text.toList.drop (place + 1))) ∧
    ∀ place, ∀ h : place + 1 < text.toList.length, isWordChar text.toList[place] = true →
      isWordChar text.toList[place + 1] = true →
      ∃ token ∈ scan text, token.Covers place ∧ token.Covers (place + 1) := by
  refine ⟨pairwise_scanFrom 0 text.toList, ?_, ?_, ?_⟩
  · intro token htoken
    simpa using exists_of_mem_scanFrom htoken
  · intro place hplace huncovered
    have hlexeme := lexeme?_of_uncovered hplace fun token htoken =>
      (Nat.zero_add place).symm ▸ huncovered token htoken
    rw [List.drop_eq_getElem_cons hplace] at hlexeme
    exact isLost_of_lexeme? hlexeme
  · intro place hplace hword hnext
    have hpair := exists_covers_pair 0 place hplace hword hnext
    rwa [Nat.zero_add] at hpair

/-- The minus begins no number here, the digit behind the point belongs to a word, and the last
quote is not closed. -/
example : scan "xAND2 -1.5y '" =
    [⟨.name, "xAND2", 0⟩, ⟨.number, "1", 7⟩, ⟨.name, "5y", 9⟩] := by decide +kernel

end Eligibility.Token

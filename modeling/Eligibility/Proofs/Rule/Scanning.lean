import Eligibility.Proofs.Rule.Lexeme

/-!
# Scanning piece by piece

A text that is put together from names, signs, keywords, parentheses, quoted texts and numerals
is cut into just these pieces, as long as each stands in front of a `Boundary`: the end, a blank
or a closing parenthesis.

* `scanFrom_lexeme` and `scanFrom_skip` are the two steps of a scan, `scan_induction` is the
  induction along them, and `lexeme?_of_isName`, `lexeme?_sign`, `lexeme?_keyword` and the others
  say which one is taken;
* `IsLexeme.lexeme?_append` — a text that can be cut out somewhere is cut out as the same thing
  wherever what follows it ends it (`EndsLexeme`);
* `lexical_of_mem_scan` — every token of a scan looks like its kind;
* `scan_eq_single_iff` — a text is a single name to the scanner exactly when it is a word that
  is neither a keyword nor a number.
-/

namespace Eligibility.Token

open Text

variable {rest : List Char}

/-! ## Steps of a scan -/

/-- A lexeme in front of a text becomes a token, and the scan goes on behind it. -/
theorem scanFrom_lexeme {kind : TokenKind} {lexeme : List Char}
    (h : lexeme? (lexeme ++ rest) = some (kind, lexeme)) (position : Nat) :
    scanFrom position (lexeme ++ rest) =
      ⟨kind, String.ofList lexeme, position⟩ :: scanFrom (position + lexeme.length) rest := by
  obtain ⟨c, cs, rfl⟩ := List.exists_cons_of_ne_nil (lexical_of_lexeme? h).2.1
  rw [List.cons_append] at h ⊢
  rw [scanFrom, h]
  simp

/-- A text that is one lexeme makes one token. -/
theorem scanFrom_single {kind : TokenKind} {lexeme : List Char}
    (h : lexeme? lexeme = some (kind, lexeme)) (position : Nat) :
    scanFrom position lexeme = [⟨kind, String.ofList lexeme, position⟩] := by
  have happend : lexeme? (lexeme ++ []) = some (kind, lexeme) := by rw [List.append_nil, h]
  have hscan := scanFrom_lexeme happend position
  rwa [List.append_nil, scanFrom] at hscan

/-- A character at which no lexeme begins is dropped. -/
theorem scanFrom_skip {c : Char} {cs : List Char} (h : lexeme? (c :: cs) = none)
    (position : Nat) : scanFrom position (c :: cs) = scanFrom (position + 1) cs := by
  rw [scanFrom, h]

/-- An induction along a scan. -/
theorem scan_induction {motive : Nat → List Char → Prop} (nil : ∀ position, motive position [])
    (cut : ∀ position kind lexeme rest, lexeme ≠ [] →
      lexeme? (lexeme ++ rest) = some (kind, lexeme) → motive (position + lexeme.length) rest →
      motive position (lexeme ++ rest))
    (drop : ∀ position c cs, lexeme? (c :: cs) = none → motive (position + 1) cs →
      motive position (c :: cs)) (position : Nat) (cs : List Char) : motive position cs := by
  fun_induction scanFrom position cs with
  | case1 position => exact nil position
  | case2 position c cs kind lexeme hlexeme ih =>
      obtain ⟨-, hne, after, hcs⟩ := lexical_of_lexeme? hlexeme
      have hdrop : cs.drop (lexeme.length - 1) = after := by
        obtain ⟨d, ds, rfl⟩ := List.exists_cons_of_ne_nil hne
        rw [List.cons_append, List.cons.injEq] at hcs
        rw [hcs.2, List.length_cons, Nat.add_sub_cancel, List.drop_left]
      rw [hdrop] at ih
      rw [hcs] at hlexeme ⊢
      exact cut position kind lexeme after hne hlexeme ih
  | case3 position c cs hlexeme ih => exact drop position c cs hlexeme ih

/-- Every token of a scan was cut out by one of the rules. -/
theorem isLexeme_of_mem_scanFrom {position : Nat} {cs : List Char} {token : Token}
    (h : token ∈ scanFrom position cs) : IsLexeme token.kind token.lexeme.toList := by
  induction position, cs using scan_induction with
  | nil => simp [scanFrom] at h
  | cut position kind lexeme rest hne hlexeme ih =>
      rw [scanFrom_lexeme hlexeme, List.mem_cons] at h
      rcases h with rfl | h
      · rw [String.toList_ofList]
        exact (isLexeme_of_lexeme? hlexeme).1
      · exact ih h
  | drop position c cs hlexeme ih =>
      rw [scanFrom_skip hlexeme] at h
      exact ih h

theorem lexical_of_mem_scan {text : String} {token : Token} (h : token ∈ scan text) :
    Lexical token.kind token.lexeme.toList :=
  (isLexeme_of_mem_scanFrom h).lexical

/-! ## Boundaries -/

/-- The text is empty or begins with a character that carries no lexeme on. -/
def EndsLexeme (rest : List Char) : Prop :=
  ∀ c ∈ rest.head?, isWordChar c = false ∧ c ∉ ['.', '-', '=', '>']

theorem EndsLexeme.isWordChar_head (h : EndsLexeme rest) :
    ∀ c ∈ rest.head?, isWordChar c = false := fun c hc => (h c hc).1

theorem EndsLexeme.endsNumber (h : EndsLexeme rest) : endsNumber rest = true := by
  cases rest with
  | nil => rfl
  | cons c cs =>
      obtain ⟨hword, hpoint⟩ := h c rfl
      simp only [List.mem_cons, not_or] at hpoint
      simp [Token.endsNumber, hword, hpoint.1]

/-- A numeral does not reach into the text. -/
theorem EndsLexeme.eq_nil_of_numeral (h : EndsLexeme rest) {m : Number.Numeral}
    {front more after : List Char} (hchars : m.chars = front ++ more)
    (hrest : rest = more ++ after) : more = [] := by
  cases more with
  | nil => rfl
  | cons c more =>
      exfalso
      obtain ⟨hword, hsign⟩ := h c (by simp [hrest])
      rcases m.mem_chars (show c ∈ m.chars by simp [hchars]) with hdigit | rfl | rfl
      · exact absurd (isWordChar_of_isDigit hdigit) (by simp [hword])
      · exact hsign (by simp)
      · exact hsign (by simp)

/-- The text is empty or begins with a blank or a closing parenthesis. It carries no lexeme on. -/
def Boundary (rest : List Char) : Prop := ∀ c ∈ rest.head?, c = ' ' ∨ c = ')'

theorem boundary_nil : Boundary [] := by simp [Boundary]

theorem boundary_blank (rest : List Char) : Boundary (' ' :: rest) := by simp [Boundary]

theorem boundary_closing (rest : List Char) : Boundary (')' :: rest) := by simp [Boundary]

theorem Boundary.endsLexeme (h : Boundary rest) : EndsLexeme rest := by
  intro c hc
  rcases h c hc with rfl | rfl <;> exact ⟨by decide, by decide⟩

/-! ## Which lexeme is cut out -/

theorem unsignedNumber?_eq_none {c : Char} (h : isDigit c = false) (cs : List Char) :
    unsignedNumber? (c :: cs) = none := by
  simp [unsignedNumber?, leadingDigits, h]

/-- No number begins with anything but a digit or a minus. -/
theorem number?_eq_none {c : Char} (hdigit : isDigit c = false) (hminus : c ≠ '-')
    (cs : List Char) : number? (c :: cs) = none := by
  unfold number?
  split
  · exact absurd (List.cons.inj ‹_›).1 hminus
  · exact unsignedNumber?_eq_none hdigit cs

/-- A word that does not begin a number is cut out whole. -/
theorem lexeme?_word {word : List Char} (hne : word ≠ []) (hword : ∀ c ∈ word, isWordChar c = true)
    (hrest : ∀ c ∈ rest.head?, isWordChar c = false) (hnumber : number? (word ++ rest) = none) :
    lexeme? (word ++ rest) = some (wordKind word, word) := by
  obtain ⟨c, cs, rfl⟩ := List.exists_cons_of_ne_nil hne
  simp only [lexeme?, hnumber, takeWhile_append_of_head hword hrest]

/-- A number that begins where a word does is the whole word: it ends neither inside the word, where
no number may end, nor beyond it. -/
theorem eq_of_number?_word {word lexeme : List Char} (hword : ∀ c ∈ word, isWordChar c = true)
    (hrest : EndsLexeme rest) (h : number? (word ++ rest) = some lexeme) :
    lexeme = word ∧ ∃ m : Number.Numeral, word = m.chars := by
  obtain ⟨m, rfl, after, hsplit, hends⟩ := exists_of_number? h
  suffices heq : m.chars = word from ⟨heq, m, heq.symm⟩
  rcases List.append_eq_append_iff.mp hsplit with ⟨more, hm, hr⟩ | ⟨more, hw, ha⟩
  · rw [hm, hrest.eq_nil_of_numeral hm hr, List.append_nil]
  · cases more with
    | nil => rw [hw, List.append_nil]
    | cons c more =>
        have hc := hword c (by simp [hw])
        rw [ha, List.cons_append, Token.endsNumber, hc] at hends
        exact absurd hends (by simp)

/-- A word that is a numeral is a number: no keyword is one. -/
theorem wordKind_of_numeral (m : Number.Numeral) : wordKind m.chars = .number := by
  have hkeyword : Connective.ofKeyword? (String.ofList m.chars) = none := by
    cases hop : Connective.ofKeyword? (String.ofList m.chars) with
    | none => rfl
    | some op =>
        exfalso
        have hchars : m.chars = op.keyword.toList := by
          rw [← keyword_of_ofKeyword? hop, String.toList_ofList]
        have hnumber : number? (m.chars ++ []) = some m.chars := number?_chars m rfl
        rw [hchars] at hnumber
        cases op <;> exact absurd hnumber (by decide)
  simp [wordKind, hkeyword, m.isNumericText_chars]

/-- Where neither a number nor a word begins, the character itself decides. -/
theorem lexeme?_symbol {c : Char} (hword : isWordChar c = false) (hminus : c ≠ '-')
    (cs : List Char) : number? (c :: cs) = none ∧ (c :: cs).takeWhile isWordChar = [] := by
  have hdigit : isDigit c = false := by
    rw [Bool.eq_false_iff]
    intro hdigit
    exact absurd (isWordChar_of_isDigit hdigit) (by simp [hword])
  exact ⟨number?_eq_none hdigit hminus cs, by simp [hword]⟩

/-- A character that begins nothing is dropped. -/
theorem lexeme?_dropped {c : Char} (hword : isWordChar c = false)
    (hsymbol : c ∉ ['-', '<', '>', '=', '!', '(', ')', '\'', '"']) (cs : List Char) :
    lexeme? (c :: cs) = none := by
  simp only [List.mem_cons, List.not_mem_nil, or_false, not_or] at hsymbol
  obtain ⟨hminus, hless, hgreater, hequal, hbang, hopening, hclosing, hsingle, hdouble⟩ := hsymbol
  obtain ⟨hnumber, hrun⟩ := lexeme?_symbol hword hminus cs
  have hcomparison : comparison? (c :: cs) = none := by
    simp [comparison?, hless, hgreater, hequal, hbang]
  have hquoted : quoted? (c :: cs) = none := by simp [quoted?, hsingle, hdouble]
  simp [lexeme?, hnumber, hrun, hcomparison, hquoted, hopening, hclosing]

theorem lexeme?_blank (cs : List Char) : lexeme? (' ' :: cs) = none :=
  lexeme?_dropped (by decide) (by decide) cs

theorem lexeme?_point (cs : List Char) : lexeme? ('.' :: cs) = none :=
  lexeme?_dropped (by decide) (by decide) cs

theorem lexeme?_plus (cs : List Char) : lexeme? ('+' :: cs) = none :=
  lexeme?_dropped (by decide) (by decide) cs

/-- A minus is dropped in front of what does not begin with a number. -/
theorem lexeme?_minus {cs : List Char} (h : unsignedNumber? cs = none) :
    lexeme? ('-' :: cs) = none := by
  have hnumber : number? ('-' :: cs) = none := by
    rw [number?, h]
    rfl
  have hword : ('-' :: cs).takeWhile isWordChar = [] := List.takeWhile_cons_of_neg (by decide)
  simp [lexeme?, hnumber, hword, comparison?, quoted?]

theorem lexeme?_opening (cs : List Char) : lexeme? ('(' :: cs) = some (.opening, ['(']) := by
  obtain ⟨hnumber, hword⟩ := lexeme?_symbol (by decide : isWordChar '(' = false) (by decide) cs
  simp [lexeme?, hnumber, hword, comparison?]

theorem lexeme?_closing (cs : List Char) : lexeme? (')' :: cs) = some (.closing, [')']) := by
  obtain ⟨hnumber, hword⟩ := lexeme?_symbol (by decide : isWordChar ')' = false) (by decide) cs
  simp [lexeme?, hnumber, hword, comparison?]

theorem comparison?_sign {sign : String} (h : sign ∈ signs) (hrest : EndsLexeme rest) :
    comparison? (sign.toList ++ rest) = some sign.toList := by
  -- behind one of the shorter signs there is no character that makes it a longer one
  have hhead : ∀ c ∈ rest.head?, c ≠ '=' ∧ c ≠ '>' := by
    intro c hc
    have hsign := (hrest c hc).2
    simp only [List.mem_cons, not_or] at hsign
    exact ⟨hsign.2.2.1, hsign.2.2.2.1⟩
  simp only [signs, List.mem_cons, List.not_mem_nil, or_false] at h
  cases rest with
  | nil => rcases h with rfl | rfl | rfl | rfl | rfl | rfl | rfl <;> rfl
  | cons c cs =>
      obtain ⟨hequal, hgreater⟩ := hhead c rfl
      rcases h with rfl | rfl | rfl | rfl | rfl | rfl | rfl <;> simp [comparison?, hequal, hgreater]

/-- A comparison sign is cut out whole. -/
theorem lexeme?_sign {sign : String} (h : sign ∈ signs) (hrest : EndsLexeme rest) :
    lexeme? (sign.toList ++ rest) = some (.comparison, sign.toList) := by
  have hcomparison := comparison?_sign h hrest
  have hhead : ∃ c cs, sign.toList = c :: cs ∧ isWordChar c = false ∧ c ≠ '-' := by
    simp only [signs, List.mem_cons, List.not_mem_nil, or_false] at h
    rcases h with rfl | rfl | rfl | rfl | rfl | rfl | rfl <;>
      exact ⟨_, _, rfl, by decide, by decide⟩
  obtain ⟨c, cs, hsign, hc, hminus⟩ := hhead
  rw [hsign, List.cons_append] at hcomparison ⊢
  obtain ⟨hnumber, hword⟩ := lexeme?_symbol hc hminus (cs ++ rest)
  simp only [lexeme?, hnumber, hword, hcomparison]

theorem lexeme?_quote {quote : Char} (hquote : quote = '\'' ∨ quote = '"') (cs : List Char) :
    lexeme? (quote :: cs) = (quoted? (quote :: cs)).map fun lexeme => (.quoted, lexeme) := by
  rcases hquote with rfl | rfl
  · obtain ⟨hnumber, hword⟩ := lexeme?_symbol (by decide : isWordChar '\'' = false) (by decide) cs
    simp [lexeme?, hnumber, hword, comparison?]
  · obtain ⟨hnumber, hword⟩ := lexeme?_symbol (by decide : isWordChar '"' = false) (by decide) cs
    simp [lexeme?, hnumber, hword, comparison?]

/-- A text in quotes that are not in it is cut out whole. -/
theorem lexeme?_quoted {quote : Char} (hquote : quote = '\'' ∨ quote = '"') {body : List Char}
    (hbody : quote ∉ body) (rest : List Char) :
    lexeme? (quote :: (body ++ [quote]) ++ rest) = some (.quoted, quote :: (body ++ [quote])) := by
  have hrun : (body ++ quote :: rest).takeWhile (· != quote) = body := by
    apply takeWhile_append_of_head
    · intro c hc
      simpa using ne_of_mem_of_not_mem hc hbody
    · simp
  rw [List.cons_append, List.append_assoc, List.singleton_append, lexeme?_quote hquote, quoted?,
    hrun]
  rcases hquote with rfl | rfl <;> simp

/-- **In front of a text that does not carry it on, a lexeme is cut out again.** -/
theorem IsLexeme.lexeme?_append {kind : TokenKind} {lexeme : List Char} (h : IsLexeme kind lexeme)
    (hrest : EndsLexeme rest) : lexeme? (lexeme ++ rest) = some (kind, lexeme) := by
  cases h with
  | numeral m => simp only [lexeme?, number?_chars m hrest.endsNumber]
  | word hne hword =>
      cases hnumber : number? (lexeme ++ rest) with
      | none => exact lexeme?_word hne hword hrest.isWordChar_head hnumber
      | some number =>
          -- digits alone are cut out as a number, which is what they are as a word
          obtain ⟨rfl, m, rfl⟩ := eq_of_number?_word hword hrest hnumber
          simp only [lexeme?, hnumber, wordKind_of_numeral]
  | sign hsign => exact lexeme?_sign hsign hrest
  | opening => exact lexeme?_opening rest
  | closing => exact lexeme?_closing rest
  | quoted hquote hbody => exact lexeme?_quoted hquote hbody rest

/-- A lexeme with nothing around it is one token. -/
theorem IsLexeme.scanFrom_eq {kind : TokenKind} {lexeme : List Char} (h : IsLexeme kind lexeme)
    (position : Nat) : scanFrom position lexeme = [⟨kind, String.ofList lexeme, position⟩] := by
  have hlexeme := h.lexeme?_append boundary_nil.endsLexeme
  rw [List.append_nil] at hlexeme
  exact scanFrom_single hlexeme position

theorem lexeme?_of_isName {word : List Char} (hword : IsName word) (hrest : Boundary rest) :
    lexeme? (word ++ rest) = some (.name, word) := by
  have hlexeme := IsLexeme.word hword.ne_nil hword.isWordChar_of_mem
  rw [hword.wordKind_eq] at hlexeme
  exact hlexeme.lexeme?_append hrest.endsLexeme

theorem lexeme?_numeral (m : Number.Numeral) (hrest : Boundary rest) :
    lexeme? (m.chars ++ rest) = some (.number, m.chars) :=
  (IsLexeme.numeral m).lexeme?_append hrest.endsLexeme

theorem lexeme?_keyword (op : Connective) (hrest : Boundary rest) :
    lexeme? (op.keyword.toList ++ rest) = some (.connective op, op.keyword.toList) := by
  have hkind : wordKind op.keyword.toList = .connective op := by
    rw [wordKind, String.ofList_toList, Connective.ofKeyword?_keyword]
  have hlexeme : IsLexeme (wordKind op.keyword.toList) op.keyword.toList := by
    refine .word ?_ ?_
    · cases op <;> decide
    · cases op <;> exact List.all_eq_true.mp (by decide)
  rw [hkind] at hlexeme
  exact hlexeme.lexeme?_append hrest.endsLexeme

/-! ## Single names -/

/-- To the scanner a text is one name exactly when it is a word of that kind. -/
theorem scan_eq_single_iff (text : String) :
    scan text = [⟨.name, text, 0⟩] ↔ IsName text.toList := by
  constructor
  · intro h
    have hmem : ⟨.name, text, 0⟩ ∈ scan text := by rw [h]; exact List.mem_cons_self
    exact lexical_of_mem_scan hmem
  · intro h
    have hlexeme := lexeme?_of_isName h boundary_nil
    rw [List.append_nil] at hlexeme
    rw [scan, scanFrom_single hlexeme, String.ofList_toList]

/-- Behind a name and an equals sign the tokens of a text are those that it has by itself. -/
theorem scan_equals {name : String} (hname : IsName name.toList) (s : String) :
    scan (name ++ " = " ++ s) = ⟨.name, name, 0⟩ :: ⟨.comparison, "=", name.length + 1⟩ ::
      scanFrom (name.length + 3) s.toList := by
  have hword := lexeme?_of_isName hname (boundary_blank ("=".toList ++ ' ' :: s.toList))
  have hsign := lexeme?_sign (by decide : "=" ∈ signs) (boundary_blank s.toList).endsLexeme
  have hscan := scanFrom_lexeme hword 0
  rw [scanFrom_skip (lexeme?_blank _), scanFrom_lexeme hsign, scanFrom_skip (lexeme?_blank _),
    String.ofList_toList, String.length_toList] at hscan
  rw [scan, String.toList_append, String.toList_append, List.append_assoc]
  simpa [Nat.add_assoc] using hscan

end Eligibility.Token

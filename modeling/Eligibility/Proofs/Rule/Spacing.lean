import Eligibility.Proofs.Rule.Coverage
import Eligibility.Proofs.Rule.Steps

/-!
# Spacing

The tokens of a text can be written out again with blanks of any sort and number around them, as
long as some stand between any two. The text that comes of it has the same tokens, at other places
(`content_scanFrom_spaced`): a lexeme in front of a blank is cut out again as what it was, whatever
followed it in the first text.

The parser looks at the kinds and the texts of tokens. Where they stand is only told in errors, so
tokens at other places parse to the same formula, or to the same error at the same token
(`parse_relocated`). This is shown along the steps of the parser.
-/

namespace Eligibility

/-! ## Gaps of tables -/

namespace Text.RangeTable

/-- The first range that does not end before these code points begins behind them. -/
def HasGap (table : RangeTable) (first last : Nat) : Prop :=
  ∀ range ∈ (table.dropWhile fun range => range.2 < first).head?, last < range.1

instance (table : RangeTable) (first last : Nat) : Decidable (table.HasGap first last) :=
  inferInstanceAs (Decidable (∀ range ∈ (table.dropWhile _).head?, last < range.1))

theorem not_covers_of_hasGap {table : RangeTable} {first last n : Nat}
    (h : table.HasGap first last) (hfirst : first ≤ n) (hlast : n ≤ last) :
    table.covers n = false := by
  induction table with
  | nil => rfl
  | cons range rest ih =>
      rw [covers]
      by_cases hpassed : range.2 < first
      · have hrest : HasGap rest first last := by
          simpa [HasGap, hpassed] using h
        rw [if_neg (show ¬ n ≤ range.2 by omega), ih hrest, ite_self]
      · have hnext : last < range.1 := h range (by simp [hpassed])
        rw [if_pos (show n < range.1 by omega)]

end Text.RangeTable

namespace Token

open Text

variable {rest : List Char}

/-! ## Blanks -/

/-- A blank belongs to no word and is no sign. -/
theorem isBlank_spec {c : Char} (h : isBlank c = true) : isWordChar c = false ∧
    c ∉ ['-', '<', '>', '=', '!', '(', ')', '\'', '"', '.'] := by
  have hgaps : ∀ range ∈ blankTable, letterTable.HasGap range.1 range.2 := by decide +kernel
  have hpoints : ∀ n ∈ RangeTable.points blankTable, numeralTable.covers n = false ∧
      Char.ofNat n ∉ ['_', '-', '<', '>', '=', '!', '(', ')', '\'', '"', '.'] := by decide +kernel
  have hpoint := RangeTable.mem_points_of_covers h
  obtain ⟨range, hrange, hmem⟩ := List.mem_flatMap.mp hpoint
  obtain ⟨hfirst, hlast⟩ := List.mem_range'_1.mp hmem
  have hletter : isLetter c = false :=
    RangeTable.not_covers_of_hasGap (hgaps range hrange) hfirst (by omega)
  have hdigit : isDigit c = false := by
    rw [Bool.eq_false_iff]
    intro hdigit
    rw [isBlank_of_isDigit hdigit] at h
    exact Bool.false_ne_true h
  obtain ⟨hnumeral, hsign⟩ := hpoints c.toNat hpoint
  rw [Char.ofNat_toNat, List.mem_cons, not_or] at hsign
  refine ⟨?_, hsign.2⟩
  rw [isWordChar, hletter, hdigit, inTable, hnumeral, beq_false_of_ne hsign.1]
  rfl

theorem lexeme?_of_isBlank {c : Char} (h : isBlank c = true) (cs : List Char) :
    lexeme? (c :: cs) = none := by
  obtain ⟨hword, hsign⟩ := isBlank_spec h
  refine lexeme?_dropped hword (fun hmem => hsign ?_) cs
  exact List.mem_append_left ['.'] hmem

/-- Blanks are dropped. -/
theorem scanFrom_blanks {blanks : List Char} (h : ∀ c ∈ blanks, isBlank c = true)
    (position : Nat) (rest : List Char) :
    scanFrom position (blanks ++ rest) = scanFrom (position + blanks.length) rest := by
  induction blanks generalizing position with
  | nil => rfl
  | cons c blanks ih =>
      rw [List.cons_append, scanFrom_skip (lexeme?_of_isBlank (h c List.mem_cons_self) _),
        ih fun d hd => h d (List.mem_cons_of_mem _ hd), List.length_cons, Nat.add_assoc,
        Nat.add_comm 1]

theorem endsLexeme_of_isBlank (h : ∀ c ∈ rest.head?, isBlank c = true) : EndsLexeme rest := by
  intro c hc
  obtain ⟨hword, hsign⟩ := isBlank_spec (h c hc)
  exact ⟨hword, by simp_all⟩

/-! ## Lexemes with gaps -/

/-- The text of some pieces with a gap in front and one behind each piece. -/
def spacedOut (front : String) (pieces gaps : List String) : String :=
  String.join (front :: List.zipWith (· ++ ·) pieces gaps)

/-- The characters of the pieces and gaps behind the first gap. -/
def spacedChars (pieces gaps : List String) : List Char :=
  (List.zipWith (· ++ ·) pieces gaps).flatMap String.toList

theorem toList_spacedOut (front : String) (pieces gaps : List String) :
    (spacedOut front pieces gaps).toList = front.toList ++ spacedChars pieces gaps := by
  rw [spacedOut, String.toList_join, List.flatMap_cons, spacedChars]

theorem spacedChars_cons (piece gap : String) (pieces gaps : List String) :
    spacedChars (piece :: pieces) (gap :: gaps) =
      piece.toList ++ (gap.toList ++ spacedChars pieces gaps) := by
  rw [spacedChars, List.zipWith_cons_cons, List.flatMap_cons, String.toList_append,
    List.append_assoc, spacedChars]

/-- Behind each piece there is a blank or nothing. -/
theorem isBlank_of_head?_spacedChars (pieces : List String) {gaps : List String} {gap : String}
    (hblank : ∀ c ∈ gap.toList, isBlank c = true) (hgap : gaps ≠ [] → gap ≠ "") :
    ∀ c ∈ (gap.toList ++ spacedChars pieces gaps).head?, isBlank c = true := by
  intro c hc
  cases hchars : gap.toList with
  | nil =>
      -- only the last gap may be empty
      obtain rfl : gaps = [] := by
        refine Decidable.byContradiction fun hne => hgap hne ?_
        exact String.toList_eq_nil_iff.mp hchars
      simp [hchars, spacedChars] at hc
  | cons d cs =>
      rw [hchars] at hc hblank
      obtain rfl : d = c := by simpa using hc
      exact hblank d List.mem_cons_self

/-- What a token is, wherever it stands. -/
def content (token : Token) : TokenKind × String := (token.kind, token.lexeme)

/-- Lexemes with blanks between them are cut out again, each as what it was. -/
theorem content_scanFrom_spaced {tokens : List Token} {gaps : List String}
    (htokens : ∀ token ∈ tokens, IsLexeme token.kind token.lexeme.toList)
    (hlength : gaps.length = tokens.length)
    (hblank : ∀ gap ∈ gaps, ∀ c ∈ gap.toList, isBlank c = true)
    (hbetween : ∀ gap ∈ gaps.dropLast, gap ≠ "") (position : Nat) :
    (scanFrom position (spacedChars (tokens.map (·.lexeme)) gaps)).map content =
      tokens.map content := by
  induction tokens generalizing gaps position with
  | nil => simp [spacedChars, scanFrom]
  | cons token tokens ih =>
      obtain ⟨gap, gaps, rfl⟩ := List.exists_cons_of_length_eq_add_one hlength
      obtain ⟨htoken, htokens⟩ := List.forall_mem_cons.mp htokens
      obtain ⟨hgap, hblank⟩ := List.forall_mem_cons.mp hblank
      have hnext (hne : gaps ≠ []) : gap ≠ "" ∧ ∀ gap ∈ gaps.dropLast, gap ≠ "" := by
        rwa [List.dropLast_cons_of_ne_nil hne, List.forall_mem_cons] at hbetween
      have hrest : ∀ gap ∈ gaps.dropLast, gap ≠ "" := by
        by_cases hne : gaps = []
        · simp [hne]
        · exact (hnext hne).2
      have hlexeme := htoken.lexeme?_append (endsLexeme_of_isBlank
        (isBlank_of_head?_spacedChars (tokens.map (·.lexeme)) hgap fun hne => (hnext hne).1))
      rw [List.map_cons, spacedChars_cons, scanFrom_lexeme hlexeme, scanFrom_blanks hgap,
        List.map_cons, List.map_cons, ih htokens (Nat.succ.inj hlength) hblank hrest,
        String.ofList_toList]
      rfl

/-! ## Tokens at other places -/

/-- The token at the place that is given for its own. -/
def relocated (place : Nat → Nat) (token : Token) : Token :=
  { token with position := place token.position }

/-- Tokens that differ from others in their places alone are these tokens at other places, if no
two of the places are the same. -/
theorem exists_eq_map_relocated {tokens others : List Token}
    (hplaces : (tokens.map (·.position)).Nodup) (h : others.map content = tokens.map content) :
    ∃ place, others = tokens.map (relocated place) := by
  induction tokens generalizing others with
  | nil => exact ⟨id, by simpa using h⟩
  | cons token tokens ih =>
      obtain ⟨other, others, rfl, hother, hrest⟩ := List.map_eq_cons_iff.mp h
      rw [List.map_cons, List.nodup_cons] at hplaces
      obtain ⟨place, rfl⟩ := ih hplaces.2 hrest
      refine ⟨fun n => if n = token.position then other.position else place n, ?_⟩
      rw [List.map_cons, List.cons.injEq]
      constructor
      · obtain ⟨hkind, hlexeme⟩ := Prod.mk.inj hother
        simp [relocated, ← hkind, ← hlexeme]
      · refine List.map_congr_left fun later hlater => ?_
        have hne : later.position ≠ token.position := by
          intro heq
          exact hplaces.1 (heq ▸ List.mem_map_of_mem hlater)
        simp [relocated, hne]

theorem nodup_positions (text : String) : ((scan text).map (·.position)).Nodup := by
  rw [List.Nodup, List.pairwise_map]
  exact (pairwise_scanFrom 0 text.toList).imp fun hbefore => Nat.ne_of_lt hbefore.1

end Token

/-- The error at the place that is given for its own, if it has one. -/
def SyntaxError.relocated (place : Nat → Nat) (e : SyntaxError) : SyntaxError :=
  { e with position := e.position.map place }

/-- The error of a text at the place that is given for its own. A number that is not read has no
place. -/
def RuleTextError.relocated (place : Nat → Nat) : RuleTextError → RuleTextError
  | .syntaxError e => .syntaxError (e.relocated place)
  | .number e => .number e

namespace Parser

open Token

variable {s s' : State} {limit : Nat} {tokens more : List Token}

/-- The group with its parenthesis at the place that is given for its own. -/
def Group.relocated (place : Nat → Nat) (group : Group) : Group :=
  { group with position := place group.position }

/-- The state with the open groups at the places that are given for their own. -/
def State.relocated (place : Nat → Nat) : State → State
  | .due room open_ chain => .due room (open_.map (.relocated place)) chain
  | .past room open_ chain f => .past room (open_.map (.relocated place)) chain f

theorem literal?_relocated (place : Nat → Nat) (token : Token) :
    literal? (token.relocated place) = (literal? token).mapError (.relocated place) := by
  unfold literal?
  cases hkind : token.kind with
  | number =>
      simp only [Token.relocated, hkind]
      cases Number.read token.lexeme <;> rfl
  | _ => simp only [Token.relocated, hkind]; rfl

theorem comparison?_relocated (place : Nat → Nat) (name sign value : Token) :
    comparison? (name.relocated place) (sign.relocated place) (value.relocated place) =
      (comparison? name sign value).mapError (.relocated place) := by
  unfold comparison?
  by_cases hname : name.kind = .name
  · by_cases hsign : sign.kind = .comparison
    · rw [literal?_relocated]
      cases hvalue : literal? value <;> simp [Token.relocated, hname, hsign] <;> rfl
    · simp [Token.relocated, hname, hsign]
      rfl
  · simp [Token.relocated, hname]
    rfl

theorem Moves.relocated (place : Nat → Nat) (h : Moves s more s') :
    Moves (s.relocated place) (more.map (.relocated place)) (s'.relocated place) := by
  cases h with
  | opening hopening => exact .opening hopening
  | comparison hc =>
      refine .comparison ?_
      rw [comparison?_relocated, hc]
      rfl
  | and hand => exact .and hand
  | or hor => exact .or hor
  | closing hclosing => exact .closing hclosing

theorem Reaches.relocated (place : Nat → Nat) {read : List Token} (h : Reaches s read s') :
    Reaches (s.relocated place) (read.map (.relocated place)) (s'.relocated place) := by
  induction h with
  | refl => exact .refl
  | step _ hmove ih =>
      rw [List.map_append]
      exact ih.step (hmove.relocated place)

theorem Ends.relocated (place : Nat → Nat) {result : Except RuleTextError Formula}
    (h : Ends s tokens result) :
    Ends (s.relocated place) (tokens.map (.relocated place))
      (result.mapError (.relocated place)) := by
  cases h with
  | formula => exact .formula
  | nothingLeft => exact .nothingLeft
  | tooDeep hopening => exact .tooDeep hopening
  | tooFew hopening hfew => exact .tooFew hopening (by simpa using hfew)
  | expectedName hopening hname => exact .expectedName hopening hname
  | expectedOperator hname hsign => exact .expectedOperator hname hsign
  | expectedLiteral hname hsign hvalue => exact .expectedLiteral hname hsign hvalue
  | @unreadable _ _ _ name sign value _ hname hsign hvalue _ hnumber =>
      exact @Ends.unreadable _ _ _ (name.relocated place) (sign.relocated place)
        (value.relocated place) _ hname hsign hvalue _ hnumber
  | unclosedAtEnd => exact .unclosedAtEnd
  | unclosed hop hclosing => exact .unclosed hop hclosing
  | trailing hop => exact .trailing hop

/-- **The parser does not look at places.** -/
theorem parse_relocated (limit : Nat) (place : Nat → Nat) (tokens : List Token) :
    parse limit (tokens.map (.relocated place)) =
      (parse limit tokens).mapError (.relocated place) := by
  obtain ⟨read, rest, s, htokens, hreach, hend⟩ := parse_eq_iff.mp (Eq.refl (parse limit tokens))
  refine parse_eq_iff.mpr ⟨_, _, _, ?_, hreach.relocated place, hend.relocated place⟩
  rw [htokens, List.map_append]

end Parser

namespace Formula

open Token Text

/-- **Spacing does not matter.** Write the lexemes of a text out again with blanks of any sort
around them, and at least one between any two. The text that comes of it has the same tokens at
other places, and under every limit it reads as the same formula or has the same fault, which is
found at the same token. -/
theorem ofText?_spacedOut {text front : String} {gaps : List String}
    (hlength : gaps.length = (scan text).length)
    (hblank : ∀ gap ∈ front :: gaps, ∀ c ∈ gap.toList, isBlank c = true)
    (hbetween : ∀ gap ∈ gaps.dropLast, gap ≠ "") :
    let spaced := spacedOut front ((scan text).map (·.lexeme)) gaps
    ∃ place : Nat → Nat, scan spaced = (scan text).map (.relocated place) ∧
      ∀ maxDepth, ofText? spaced maxDepth = (ofText? text maxDepth).mapError (.relocated place) := by
  intro spaced
  obtain ⟨hfront, hgaps⟩ := List.forall_mem_cons.mp hblank
  have hcontent : (scan spaced).map content = (scan text).map content := by
    rw [scan, toList_spacedOut, scanFrom_blanks hfront]
    exact content_scanFrom_spaced (fun token htoken => isLexeme_of_mem_scanFrom htoken) hlength
      hgaps hbetween _
  obtain ⟨place, hplace⟩ := exists_eq_map_relocated (nodup_positions text) hcontent
  refine ⟨place, hplace, fun maxDepth => ?_⟩
  rw [ofText?, hplace, Parser.parse_relocated, ofText?]

/-- In the first text a point keeps `12` from being cut out as a number, so it is cut out as a word,
and the quote behind it is lost. With a line feed in its place the number is cut out at once, and
what follows the comparison is found further back. -/
theorem ofText?_spacedOut_of_point :
    let text := "a=12.'b'\""
    let spaced := "a\t= 12\n\u2003'b'"
    scan text = [⟨.name, "a", 0⟩, ⟨.comparison, "=", 1⟩, ⟨.number, "12", 2⟩, ⟨.quoted, "'b'", 5⟩] ∧
    ∃ place : Nat → Nat, scan spaced = (scan text).map (.relocated place) ∧
      ∀ maxDepth, ofText? spaced maxDepth = (ofText? text maxDepth).mapError (.relocated place) := by
  intro text spaced
  have hscan : scan text =
      [⟨.name, "a", 0⟩, ⟨.comparison, "=", 1⟩, ⟨.number, "12", 2⟩, ⟨.quoted, "'b'", 5⟩] := by
    decide +kernel
  have hspaced : spacedOut "" ((scan text).map (·.lexeme)) ["\t", " ", "\n\u2003", ""] = spaced := by
    rw [hscan]
    decide
  have hall : ["", "\t", " ", "\n\u2003", ""].all (fun gap => gap.toList.all isBlank) = true := by
    decide +kernel
  have h := @ofText?_spacedOut text "" ["\t", " ", "\n\u2003", ""] (by rw [hscan]; rfl)
    (fun gap hgap => List.all_eq_true.mp (List.all_eq_true.mp hall gap hgap)) (by decide)
  rw [hspaced] at h
  exact ⟨hscan, h⟩

end Formula

end Eligibility

import Eligibility.Proofs.Number.Conversion
import Eligibility.Proofs.Rule.Parentheses
import Eligibility.Proofs.Rule.Scanning

/-!
# Printed formulas

What the scanner makes of the printed text of a formula:

* `Comparison.Spellable` — the name is one word to the scanner, the operator is a comparison
  sign, and a text as value leaves one sort of quotes to put it in;
* `Formula.Shows` — the tokens open and nest the groups that the formula asks for, none of them
  reads as an infinity or not-a-number, and if no value of the formula is one either, then they
  derive the formula; their numbers are read if the values can be written;
* `scans_printOnto` — for a formula of spellable comparisons the tokens of the printed text do
  all this, by induction on the formula.

Infinities and not-a-number are printed as a word, a point and a zero, which the scanner takes
apart. That is why their formulas are not derived, and why no token reads as one of them.
-/

namespace Eligibility

open Text Token

/-! ## What can be printed -/

/-- The literal is neither infinite nor not-a-number. -/
def Literal.Finite : Literal → Prop
  | .text _ => True
  | .number n => n.isFinite = true

/-- The literal has a sort of quotes that it does not hold, if it needs them. -/
def Literal.Quotable : Literal → Prop
  | .text s => ¬ ('\'' ∈ s.toList ∧ '"' ∈ s.toList)
  | .number _ => True

/-- The parts of the comparison are written as what they are. -/
structure Comparison.Spellable (c : Comparison) : Prop where
  scan_name : scan c.name = [⟨.name, c.name, 0⟩]
  operator_mem : c.operator ∈ signs
  quotable : c.value.Quotable

/-- Wherever the scanner gets to what is printed in front of a boundary, it makes tokens of
the expected sort of it and goes on behind. -/
def Scans (print : List Char → List Char) (Expected : List Token → Prop) : Prop :=
  ∀ rest, Boundary rest → ∀ position, ∃ tokens position',
    scanFrom position (print rest) = tokens ++ scanFrom position' rest ∧ Expected tokens

/-! ## Literals -/

/-- The tokens of a printed literal: a single one that stands for it if it is finite. -/
structure Literal.Shows (v : Literal) (tokens : List Token) : Prop where
  isLiteral : ∀ token ∈ tokens, token.kind.isLiteral = true
  finite : ∀ token ∈ tokens, token.literal.Finite
  converts : v.isWritable = true → ∀ token ∈ tokens, token.Converts
  single : v.Finite → ∃ token, tokens = [token] ∧ token.literal = v

/-- Only a number can stand for something infinite. -/
theorem finite_literal {token : Token} (h : token.kind ≠ .number) : token.literal.Finite := by
  unfold Token.literal
  split
  · trivial
  · exact absurd ‹_› h
  · trivial

/-- A token that stands for a finite literal shows it. -/
theorem Literal.shows_single {v : Literal} (hv : v.Finite) {token : Token}
    (hkind : token.kind.isLiteral = true) (hconverts : v.isWritable = true → token.Converts)
    (hliteral : token.literal = v) : v.Shows [token] := by
  refine ⟨?_, ?_, ?_, fun _ => ⟨token, rfl, hliteral⟩⟩
  · simpa using hkind
  · simpa [hliteral] using hv
  · simpa using hconverts

/-- What is cut out whole in front of every boundary makes one token. -/
theorem scans_lexeme {kind : TokenKind} {lexeme : List Char} {Expected : List Token → Prop}
    (hlexeme : ∀ rest, Boundary rest → lexeme? (lexeme ++ rest) = some (kind, lexeme))
    (hexpected : ∀ position, Expected [⟨kind, String.ofList lexeme, position⟩]) :
    Scans (lexeme ++ ·) Expected := by
  intro rest hrest position
  exact ⟨_, _, scanFrom_lexeme (hlexeme rest hrest) position, hexpected position⟩

/-- A text shows as itself in quotes of a sort that it does not hold. -/
theorem scans_text {s : String} (hs : (Literal.text s).Quotable) :
    Scans ((Literal.text s).chars ++ ·) (Literal.text s).Shows := by
  obtain ⟨quote, hquote, hbody, hchars⟩ : ∃ quote, (quote = '\'' ∨ quote = '"') ∧
      quote ∉ s.toList ∧ (Literal.text s).chars = quote :: (s.toList ++ [quote]) := by
    by_cases hsingle : '\'' ∈ s.toList
    · exact ⟨'"', .inr rfl, fun hdouble => hs ⟨hsingle, hdouble⟩, by simp [Literal.chars, hsingle]⟩
    · exact ⟨'\'', .inl rfl, hsingle, by simp [Literal.chars, hsingle]⟩
  rw [hchars]
  refine scans_lexeme (fun rest _ => lexeme?_quoted hquote hbody rest) fun position => ?_
  have hfinite : (Literal.text s).Finite := trivial
  exact Literal.shows_single hfinite rfl (fun _ => converts_of_ne (by simp))
    (by simp [Token.literal])

/-- A finite number shows as its numeral. -/
theorem scans_number {n : Number} (hn : n.isFinite = true) :
    Scans ((Literal.number n).chars ++ ·) (Literal.number n).Shows := by
  obtain ⟨m, hchars, hdenoted, hread⟩ := Number.exists_numeral hn
  rw [hchars]
  refine scans_lexeme (fun rest hrest => lexeme?_numeral m hrest) fun position => ?_
  have hfinite : (Literal.number n).Finite := hn
  exact Literal.shows_single hfinite rfl (fun hwritable _ => ⟨n, hread hwritable⟩)
    (by simp [Token.literal, hdenoted])

/-- A name, a point and a zero show as a name and an integer: the point is dropped. -/
theorem scans_name_zero {c : Char} {cs : List Char} (hword : IsName (c :: cs))
    (hdigit : isDigit c = false) {v : Literal} (hv : ¬ v.Finite) :
    Scans (c :: cs ++ '.' :: '0' :: ·) v.Shows := by
  intro rest hrest position
  have hc : c ≠ '-' := by
    rintro rfl
    exact absurd (hword.isWordChar_of_mem '-' List.mem_cons_self) (by decide)
  have hname : ∀ after, lexeme? (c :: cs ++ '.' :: after) = some (.name, c :: cs) := by
    intro after
    rw [lexeme?_word hword.ne_nil hword.isWordChar_of_mem (by simp; decide)
      (number?_eq_none hdigit hc _), hword.wordKind_eq]
  have hzero : lexeme? (['0'] ++ rest) = some (.number, ['0']) :=
    lexeme?_numeral ⟨false, ['0'], [], by simp, by simp; decide, by simp⟩ hrest
  have hdenoted : Number.ofText? (String.ofList ['0']) = some (.int 0) := by decide
  have hread : Number.read (String.ofList ['0']) = .ok (.int 0) := by decide
  have hscan : scanFrom position (c :: cs ++ '.' :: (['0'] ++ rest)) = _ :=
    scanFrom_lexeme (hname _) position
  rw [scanFrom_skip (lexeme?_point _), scanFrom_lexeme hzero] at hscan
  refine ⟨[_, _], _, hscan, ?_, ?_, ?_, fun hfinite => absurd hfinite hv⟩
  · simp [TokenKind.isLiteral]
  · simp [Token.literal, hdenoted, Literal.Finite, Number.isFinite]
  · simp [Converts, hread]

/-- A minus in front of a name is dropped. -/
theorem Scans.minus {c : Char} (hc : isDigit c = false) {cs : List Char}
    {Expected : List Token → Prop} (h : Scans (c :: cs ++ ·) Expected) :
    Scans ('-' :: c :: cs ++ ·) Expected := by
  intro rest hrest position
  obtain ⟨tokens, position', hscan, hexpected⟩ := h rest hrest (position + 1)
  refine ⟨tokens, position', ?_, hexpected⟩
  rw [← hscan]
  exact scanFrom_skip (lexeme?_minus (unsignedNumber?_eq_none hc _)) position

theorem isName_infinity : IsName ['I', 'n', 'f', 'i', 'n', 'i', 't', 'y'] :=
  ⟨by decide, List.all_eq_true.mp (by decide), by decide⟩

theorem isName_nan : IsName ['N', 'a', 'N'] :=
  ⟨by decide, List.all_eq_true.mp (by decide), by decide⟩

/-- Every literal that can be quoted shows as literals, and as itself if it is finite. -/
theorem scans_literal {v : Literal} (hv : v.Quotable) : Scans (v.chars ++ ·) v.Shows := by
  match v with
  | .text s => exact scans_text hv
  | .number n =>
      by_cases hn : n.isFinite = true
      · exact scans_number hn
      · match n with
        | .int _ => exact absurd rfl hn
        | .double (.finite ..) => exact absurd rfl hn
        | .double .nan => exact scans_name_zero isName_nan (by decide) hn
        | .double (.infinity false) => exact scans_name_zero isName_infinity (by decide) hn
        | .double (.infinity true) =>
            exact .minus (by decide) (scans_name_zero isName_infinity (by decide) hn)

/-! ## Formulas -/

namespace Formula

/-- What a formula is as a phrase. -/
def phrase : Formula → Phrase
  | .atom _ => .factor
  | .join op _ _ => .chain op

theorem phrase_groups (f : Formula) : f.phrase.groups f = false := by
  cases f with
  | atom c => rfl
  | join op left right => exact groups_chain_join op left right

@[simp] theorem isWritable_atom (c : Comparison) : isWritable (.atom c) = c.value.isWritable := by
  simp [isWritable]

@[simp] theorem isWritable_join (op : Connective) (left right : Formula) :
    isWritable (.join op left right) = (left.isWritable && right.isWritable) := by
  simp [isWritable]

/-- The tokens of a formula that is printed where a phrase is asked for. -/
structure Shows (f : Formula) (phrase : Phrase) (tokens : List Token) : Prop where
  openings_eq : openings tokens = f.parentheses + (phrase.groups f).toNat
  nested : Nested tokens (f.nesting + (phrase.groups f).toNat)
  finite : ∀ token ∈ tokens, token.literal.Finite
  converts : f.isWritable = true → ∀ token ∈ tokens, token.Converts
  derives : (∀ c ∈ f.comparisons, c.value.Finite) →
    Derives phrase (f.nesting + (phrase.groups f).toNat) tokens f

end Formula

variable {phrase : Phrase} {tokens : List Token} {f : Formula}

/-- A factor stands for every phrase. -/
theorem Derives.of_factor {depth : Nat} (h : Derives .factor depth tokens f) :
    ∀ phrase, Derives phrase depth tokens f
  | .factor => h
  | .chain op => h.chain_of_factor op

/-- A formula stands as it is for every phrase where it needs no group. -/
theorem Derives.of_phrase {depth : Nat} (h : Derives f.phrase depth tokens f)
    (hgroups : phrase.groups f = false) : Derives phrase depth tokens f := by
  match f, phrase with
  | .atom _, phrase => exact h.of_factor phrase
  | .join _ _ _, .factor => exact absurd hgroups (by simp [Phrase.groups])
  | .join .and _ _, .chain .and => exact h
  | .join .or _ _, .chain .or => exact h
  | .join .and _ _, .chain .or => exact .single h
  | .join .or _ _, .chain .and => exact absurd hgroups (by simp [Phrase.groups])

namespace Formula.Shows

/-- Without a group the tokens of a formula are those of the phrase that it is. -/
theorem of_phrase (h : f.Shows f.phrase tokens) (hgroups : phrase.groups f = false) :
    f.Shows phrase tokens := by
  obtain ⟨hopenings, hnested, hfinite, hconverts, hderives⟩ := h
  rw [phrase_groups] at hopenings hnested hderives
  rw [← hgroups] at hopenings hnested hderives
  exact ⟨hopenings, hnested, hfinite, hconverts,
    fun hvalues => (hderives hvalues).of_phrase hgroups⟩

/-- With a group they are those of the phrase that it is, in parentheses. -/
theorem group (h : f.Shows f.phrase tokens) (hgroups : phrase.groups f = true)
    {opening closing : Token} (hopening : opening.kind = .opening)
    (hclosing : closing.kind = .closing) : f.Shows phrase (opening :: (tokens ++ [closing])) := by
  -- what stands inside the parentheses is an expression, whatever is asked for outside
  obtain ⟨hopenings, hnested, hfinite, hconverts, hderives⟩ := h.of_phrase f.groups_expression
  rw [groups_expression] at hopenings hnested hderives
  constructor
  · rw [openings_group hopening hclosing, hopenings, hgroups]
    rfl
  · rw [hgroups]
    exact hnested.group hopening hclosing
  · intro token htoken
    simp only [List.mem_cons, List.mem_append, List.not_mem_nil, or_false] at htoken
    rcases htoken with rfl | htoken | rfl
    · exact finite_literal (by simp [hopening])
    · exact hfinite token htoken
    · exact finite_literal (by simp [hclosing])
  · intro hwritable token htoken
    simp only [List.mem_cons, List.mem_append, List.not_mem_nil, or_false] at htoken
    rcases htoken with rfl | htoken | rfl
    · exact converts_of_ne (by simp [hopening])
    · exact hconverts hwritable token htoken
    · exact converts_of_ne (by simp [hclosing])
  · intro hvalues
    rw [hgroups]
    exact (Derives.group hopening (hderives hvalues) hclosing).of_factor phrase

/-- The tokens of a join are those of its sides, as chain and part, around the keyword. -/
theorem link {op : Connective} {left right : Formula} (h : left.Shows (.chain op) tokens)
    {keyword : Token} (hkeyword : keyword.kind = .connective op) {more : List Token}
    (hmore : right.Shows (.part op) more) :
    (Formula.join op left right).Shows (.chain op) (tokens ++ keyword :: more) := by
  have hplain : keyword.IsPlain := by simp [IsPlain, hkeyword]
  have hnesting : (Formula.join op left right).nesting =
      max (left.nesting + ((Phrase.chain op).groups left).toNat)
        (right.nesting + ((Phrase.part op).groups right).toNat) := by
    rw [nesting, groupsLeft_eq, groupsRight_eq]
  constructor
  · rw [openings_link hplain, h.openings_eq, hmore.openings_eq, groups_chain_join, parentheses,
      groupsLeft_eq, groupsRight_eq]
    rfl
  · rw [groups_chain_join, hnesting]
    exact h.nested.link hplain hmore.nested
  · intro token htoken
    rcases List.mem_append.mp htoken with htoken | htoken
    · exact h.finite token htoken
    · rcases List.mem_cons.mp htoken with rfl | htoken
      · exact finite_literal (by simp [hkeyword])
      · exact hmore.finite token htoken
  · intro hwritable token htoken
    rw [isWritable_join, Bool.and_eq_true_iff] at hwritable
    rcases List.mem_append.mp htoken with htoken | htoken
    · exact h.converts hwritable.1 token htoken
    · rcases List.mem_cons.mp htoken with rfl | htoken
      · exact converts_of_ne (by simp [hkeyword])
      · exact hmore.converts hwritable.2 token htoken
  · intro hvalues
    rw [comparisons_join] at hvalues
    rw [groups_chain_join, hnesting]
    refine .link (.mono (h.derives fun c hc => ?_) ?_) hkeyword
      (.mono (hmore.derives fun c hc => ?_) ?_)
    · exact hvalues c (List.mem_append_left _ hc)
    · exact Nat.le_max_left _ _
    · exact hvalues c (List.mem_append_right _ hc)
    · exact Nat.le_max_right _ _

end Formula.Shows

/-- The tokens of a comparison are its name, its sign and those of its value. -/
theorem Formula.shows_comparison {c : Comparison} {name sign : Token} (hname : name.kind = .name)
    (hnameEq : name.lexeme = c.name) (hsign : sign.kind = .comparison)
    (hsignEq : sign.lexeme = c.operator) {values : List Token} (hvalues : c.value.Shows values) :
    (Formula.atom c).Shows .factor (name :: sign :: values) := by
  have hplain : ∀ token ∈ name :: sign :: values, token.IsPlain := by
    intro token htoken
    rcases List.mem_cons.mp htoken with rfl | htoken
    · simp [IsPlain, hname]
    rcases List.mem_cons.mp htoken with rfl | htoken
    · simp [IsPlain, hsign]
    · have hliteral := hvalues.isLiteral token htoken
      constructor <;> intro hkind <;> rw [hkind] at hliteral <;>
        exact absurd hliteral (by decide)
  refine ⟨openings_of_isPlain hplain, nested_of_isPlain hplain, ?_, ?_, ?_⟩
  · intro token htoken
    rcases List.mem_cons.mp htoken with rfl | htoken
    · exact finite_literal (by simp [hname])
    rcases List.mem_cons.mp htoken with rfl | htoken
    · exact finite_literal (by simp [hsign])
    · exact hvalues.finite token htoken
  · intro hwritable token htoken
    rw [isWritable_atom] at hwritable
    rcases List.mem_cons.mp htoken with rfl | htoken
    · exact converts_of_ne (by simp [hname])
    rcases List.mem_cons.mp htoken with rfl | htoken
    · exact converts_of_ne (by simp [hsign])
    · exact hvalues.converts hwritable token htoken
  · intro hfinite
    obtain ⟨value, rfl, hvalue⟩ := hvalues.single (hfinite c (by simp))
    have hcomparison : c = Token.comparison name sign value := by
      rw [Token.comparison, hnameEq, hsignEq, hvalue]
    rw [hcomparison]
    exact .comparison hname hsign (hvalues.isLiteral value List.mem_cons_self)

/-- A comparison of spellable parts shows as a factor. -/
theorem scans_comparison {c : Comparison} (hc : c.Spellable) :
    Scans c.printOnto ((Formula.atom c).Shows .factor) := by
  intro rest hrest position
  have hname := lexeme?_of_isName ((scan_eq_single_iff c.name).mp hc.scan_name)
    (boundary_blank (c.operator.toList ++ ' ' :: (c.value.chars ++ rest)))
  have hsign := lexeme?_sign hc.operator_mem (boundary_blank (c.value.chars ++ rest)).endsLexeme
  have hscan : scanFrom position (c.printOnto rest) = _ := scanFrom_lexeme hname position
  rw [scanFrom_skip (lexeme?_blank _), scanFrom_lexeme hsign, scanFrom_skip (lexeme?_blank _),
    String.ofList_toList, String.ofList_toList] at hscan
  obtain ⟨values, position', hvalues, hshows⟩ := scans_literal hc.quotable rest hrest _
  rw [hvalues] at hscan
  refine ⟨⟨.name, c.name, _⟩ :: ⟨.comparison, c.operator, _⟩ :: values, position', hscan, ?_⟩
  exact Formula.shows_comparison rfl rfl rfl rfl hshows

/-- What is printed for a phrase, with a group where it needs one, shows as that phrase. -/
theorem Scans.group (h : Scans f.printOnto (f.Shows f.phrase)) (phrase : Phrase) :
    Scans (Formula.group (phrase.groups f) f.printOnto) (f.Shows phrase) := by
  intro rest hrest position
  cases hgroups : phrase.groups f with
  | false =>
      obtain ⟨tokens, position', hscan, hshows⟩ := h rest hrest position
      exact ⟨tokens, position', hscan, hshows.of_phrase hgroups⟩
  | true =>
      have hscan : scanFrom position (['('] ++ f.printOnto (')' :: rest)) = _ :=
        scanFrom_lexeme (lexeme?_opening _) position
      obtain ⟨tokens, position', hinner, hshows⟩ := h _ (boundary_closing rest) _
      have hclosing : scanFrom position' ([')'] ++ rest) = _ :=
        scanFrom_lexeme (lexeme?_closing rest) position'
      rw [List.singleton_append] at hclosing
      rw [hinner, hclosing, List.append_cons] at hscan
      refine ⟨⟨.opening, String.ofList ['('], position⟩ ::
        (tokens ++ [⟨.closing, String.ofList [')'], position'⟩]), position' + 1, ?_,
        hshows.group hgroups rfl rfl⟩
      exact hscan

/-- **Printed formulas show as themselves.** In front of a boundary the printed text of a formula
of spellable comparisons becomes tokens of the phrase that the formula is. -/
theorem scans_printOnto (hspell : ∀ c ∈ f.comparisons, c.Spellable) :
    Scans f.printOnto (f.Shows f.phrase) := by
  induction f with
  | atom c =>
      have hprint : (Formula.atom c).printOnto = c.printOnto := funext fun _ => by simp
      rw [hprint]
      exact scans_comparison (hspell c (by simp))
  | join op left right ihl ihr =>
      rw [Formula.comparisons_join] at hspell
      have hleft := (ihl fun c hc => hspell c (List.mem_append_left _ hc)).group (.chain op)
      have hright := (ihr fun c hc => hspell c (List.mem_append_right _ hc)).group (.part op)
      intro rest hrest position
      -- the blank behind the left side is a boundary for it, and so is the one behind the keyword
      obtain ⟨front, position', hfront, hshows⟩ := hleft _ (boundary_blank _) position
      have hkeyword := lexeme?_keyword op (boundary_blank
        (Formula.group ((Phrase.part op).groups right) right.printOnto rest))
      obtain ⟨back, position'', hback, hshows'⟩ := hright rest hrest _
      rw [scanFrom_skip (lexeme?_blank _), scanFrom_lexeme hkeyword, scanFrom_skip (lexeme?_blank _),
        hback, String.ofList_toList] at hfront
      refine ⟨front ++ ⟨.connective op, op.keyword, position' + 1⟩ :: back, position'', ?_,
        hshows.link rfl hshows'⟩
      rw [Formula.printOnto_join, Formula.printJoin, Formula.groupsLeft_eq, Formula.groupsRight_eq,
        List.append_assoc]
      exact hfront

end Eligibility

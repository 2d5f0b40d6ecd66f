import Eligibility.Rule.Parser

/-!
# The grammar of rules

What a list of tokens says, apart from how it is read:

    expression  is  term (OR term)*
    term        is  factor (AND factor)*
    factor      is  ( expression )  or  name sign literal

`Derives phrase depth tokens f` says that the tokens are derivable from a phrase, with groups
nested at most `depth` deep, by a derivation that denotes `f`. An expression and a term are
the same rule at two levels, a chain of parts joined by one connective, so there is one pair
of constructors for both: a chain is a single part, or a chain, the keyword and one more
part. That is the repetition counted from the left, and so the formula leans to the left.

The other facts need no parser either: a deeper limit derives as much (`Derives.mono`), the
comparisons of the formula are the tokens around the comparison signs, in order
(`Derives.comparisons_eq`), and numbers are derived where words are (`Derives.asWords`).
-/

namespace Eligibility

/-! ## Tokens -/

/-- A literal is written as a word, as a number or in quotes. -/
def TokenKind.isLiteral : TokenKind → Bool
  | .name | .number | .quoted => true
  | _ => false

namespace Token

/-- What a token stands for as a literal: a word for itself, a quoted text for what is
between its quotes, a number for the number that it denotes. A number token that denotes none
would stand for its text; a readable one never does. -/
def literal (token : Token) : Literal :=
  match token.kind with
  | .quoted => .text (String.ofList (token.lexeme.toList.drop 1).dropLast)
  | .number => (Number.ofText? token.lexeme).elim (.text token.lexeme) .number
  | _ => .text token.lexeme

/-- If the token is a number, its text passes the test for numbers. -/
def Readable (token : Token) : Prop :=
  token.kind = .number → Number.isNumericText token.lexeme = true

/-- If the token is a number, its text is read. A text that passes the test is read unless it is an
integer with too many digits. -/
def Converts (token : Token) : Prop :=
  token.kind = .number → ∃ n, Number.read token.lexeme = .ok n

theorem converts_of_ne {token : Token} (h : token.kind ≠ .number) : token.Converts :=
  fun hkind => absurd hkind h

/-- The comparison that three tokens make up. -/
def comparison (name sign value : Token) : Comparison :=
  ⟨name.lexeme, sign.lexeme, value.literal⟩

/-- The token is a comparison sign. -/
def isSign (token : Token) : Bool := token.kind == .comparison

/-- Every comparison sign that has a token on each side, with these two tokens. -/
def aroundSigns : List Token → List (Token × Token × Token)
  | name :: sign :: value :: rest =>
      if sign.isSign then (name, sign, value) :: aroundSigns (sign :: value :: rest)
      else aroundSigns (sign :: value :: rest)
  | _ => []

theorem aroundSigns_cons (token : Token) {rest : List Token}
    (hrest : ∀ next ∈ rest.head?, next.isSign = false) :
    aroundSigns (token :: rest) = aroundSigns rest := by
  match rest with
  | [] => rfl
  | [_] => rfl
  | next :: _ :: _ =>
      have hnext : next.isSign = false := hrest next rfl
      rw [aroundSigns, hnext, if_neg Bool.false_ne_true]

/-- Where neither of two neighbours is a comparison sign, no comparison reaches across. -/
theorem aroundSigns_append (front : List Token) {last : Token} {rest : List Token}
    (hlast : last.isSign = false) (hrest : ∀ next ∈ rest.head?, next.isSign = false) :
    aroundSigns (front ++ last :: rest) = aroundSigns (front ++ [last]) ++ aroundSigns rest := by
  induction front with
  | nil => exact aroundSigns_cons last hrest
  | cons first front ih =>
      match front with
      | [] =>
          rw [List.singleton_append, List.singleton_append,
            aroundSigns_cons first (by simpa using hlast), aroundSigns_cons last hrest]
          rfl
      | [second] =>
          simp only [List.cons_append, List.nil_append, aroundSigns] at ih ⊢
          rw [ih]
          split <;> rfl
      | second :: third :: front =>
          simp only [List.cons_append, aroundSigns] at ih ⊢
          rw [ih]
          split <;> rfl

end Token

/-! ## Derivations -/

/-- The phrases of the grammar. -/
inductive Phrase where
  | factor
  | chain (op : Connective)
deriving DecidableEq, Repr

namespace Phrase

/-- Factors joined by AND. -/
abbrev term : Phrase := .chain .and

/-- Terms joined by OR. -/
abbrev expression : Phrase := .chain .or

/-- What the connective of a chain joins. -/
def part : Connective → Phrase
  | .and => .factor
  | .or => .term

end Phrase

/-- The tokens are derivable from the phrase, with groups at most so deep, and denote the
formula. A group leaves no trace in the formula. -/
inductive Derives : Phrase → Nat → List Token → Formula → Prop
  | comparison {depth : Nat} {name sign value : Token} (hname : name.kind = .name)
      (hsign : sign.kind = .comparison) (hvalue : value.kind.isLiteral = true) :
      Derives .factor depth [name, sign, value] (.atom (Token.comparison name sign value))
  | group {depth : Nat} {opening closing : Token} {tokens : List Token} {f : Formula}
      (hopening : opening.kind = .opening) (hinner : Derives .expression depth tokens f)
      (hclosing : closing.kind = .closing) :
      Derives .factor (depth + 1) (opening :: (tokens ++ [closing])) f
  | single {op : Connective} {depth : Nat} {tokens : List Token} {f : Formula}
      (hpart : Derives (.part op) depth tokens f) : Derives (.chain op) depth tokens f
  | link {op : Connective} {depth : Nat} {tokens more : List Token} {keyword : Token}
      {f g : Formula} (hchain : Derives (.chain op) depth tokens f)
      (hkeyword : keyword.kind = .connective op) (hpart : Derives (.part op) depth more g) :
      Derives (.chain op) depth (tokens ++ keyword :: more) (.join op f g)

namespace Derives

variable {phrase : Phrase} {depth : Nat} {tokens : List Token} {f : Formula}

/-- What is derivable is derivable under any higher limit. -/
theorem mono (h : Derives phrase depth tokens f) {depth' : Nat} (hle : depth ≤ depth') :
    Derives phrase depth' tokens f := by
  induction h generalizing depth' with
  | comparison hname hsign hvalue => exact .comparison hname hsign hvalue
  | group hopening _ hclosing ih =>
      cases depth' with
      | zero => exact absurd hle (Nat.not_succ_le_zero _)
      | succ depth' => exact .group hopening (ih (Nat.le_of_succ_le_succ hle)) hclosing
  | single _ ih => exact .single (ih hle)
  | link _ hkeyword _ ihchain ihpart => exact .link (ihchain hle) hkeyword (ihpart hle)

/-- A factor is a term and an expression. -/
theorem chain_of_factor (h : Derives .factor depth tokens f) (op : Connective) :
    Derives (.chain op) depth tokens f := by
  cases op with
  | and => exact .single h
  | or => exact .single (.single h)

/-- Every comparison of the formula is made up of three of the tokens. -/
theorem exists_of_mem (h : Derives phrase depth tokens f) {c : Comparison}
    (hc : c ∈ f.comparisons) :
    ∃ name ∈ tokens, ∃ sign ∈ tokens, ∃ value ∈ tokens, name.kind = .name ∧
      sign.kind = .comparison ∧ value.kind.isLiteral = true ∧
      c = Token.comparison name sign value := by
  induction h with
  | @comparison _ name sign value hname hsign hvalue =>
      rw [Formula.comparisons_atom, List.mem_singleton] at hc
      exact ⟨name, by simp, sign, by simp, value, by simp, hname, hsign, hvalue, hc⟩
  | group _ _ _ ih =>
      obtain ⟨name, hn, sign, hs, value, hv, hrest⟩ := ih hc
      exact ⟨name, by simp [hn], sign, by simp [hs], value, by simp [hv], hrest⟩
  | single _ ih => exact ih hc
  | link _ _ _ ihchain ihpart =>
      rw [Formula.comparisons_join, List.mem_append] at hc
      rcases hc with hc | hc
      · obtain ⟨name, hn, sign, hs, value, hv, hrest⟩ := ihchain hc
        exact ⟨name, by simp [hn], sign, by simp [hs], value, by simp [hv], hrest⟩
      · obtain ⟨name, hn, sign, hs, value, hv, hrest⟩ := ihpart hc
        exact ⟨name, by simp [hn], sign, by simp [hs], value, by simp [hv], hrest⟩

/-- No phrase begins with a comparison sign. -/
theorem head_isSign (h : Derives phrase depth tokens f) :
    ∃ first rest, tokens = first :: rest ∧ first.isSign = false := by
  induction h with
  | comparison hname => exact ⟨_, _, rfl, by simp [Token.isSign, hname]⟩
  | group hopening => exact ⟨_, _, rfl, by simp [Token.isSign, hopening]⟩
  | single _ ih => exact ih
  | link _ _ _ ih =>
      obtain ⟨first, rest, rfl, hfirst⟩ := ih
      exact ⟨first, _, rfl, hfirst⟩

/-- No phrase ends with a comparison sign. -/
theorem last_isSign (h : Derives phrase depth tokens f) :
    ∃ front last, tokens = front ++ [last] ∧ last.isSign = false := by
  induction h with
  | @comparison _ name sign value _ _ hvalue =>
      refine ⟨[name, sign], value, rfl, ?_⟩
      cases hkind : value.kind <;> simp_all [Token.isSign, TokenKind.isLiteral]
  | group _ _ hclosing => exact ⟨_ :: _, _, rfl, by simp [Token.isSign, hclosing]⟩
  | single _ ih => exact ih
  | @link _ _ tokens _ keyword _ _ _ _ _ _ ih =>
      obtain ⟨front, last, rfl, hlast⟩ := ih
      exact ⟨tokens ++ keyword :: front, last, by simp, hlast⟩

/-- In a phrase every comparison sign has its two neighbours, and these triples are, from left
to right, the comparisons of the formula. -/
theorem comparisons_eq (h : Derives phrase depth tokens f) :
    f.comparisons = (Token.aroundSigns tokens).map (fun (name, sign, value) =>
        Token.comparison name sign value) ∧
      (Token.aroundSigns tokens).map (·.2.1) = tokens.filter (·.isSign) := by
  induction h with
  | @comparison _ name sign value hname hsign hvalue =>
      have hn : name.isSign = false := by simp [Token.isSign, hname]
      have hs : sign.isSign = true := by simp [Token.isSign, hsign]
      have hv : value.isSign = false := by
        cases hkind : value.kind <;> simp_all [Token.isSign, TokenKind.isLiteral]
      simp [Token.aroundSigns, hn, hs, hv]
  | @group _ opening closing tokens f hopening hinner hclosing ih =>
      have ho : opening.isSign = false := by simp [Token.isSign, hopening]
      have hc : closing.isSign = false := by simp [Token.isSign, hclosing]
      obtain ⟨first, rest, hfirst, hhead⟩ := hinner.head_isSign
      obtain ⟨front, last, hlast, htail⟩ := hinner.last_isSign
      have haround : Token.aroundSigns (opening :: (tokens ++ [closing])) =
          Token.aroundSigns tokens := by
        rw [Token.aroundSigns_cons opening (by simp [hfirst, hhead]), hlast, List.append_assoc,
          List.singleton_append, Token.aroundSigns_append front htail (by simp [hc])]
        simp [Token.aroundSigns]
      rw [haround, ih.1]
      exact ⟨rfl, by simp [ih.2, ho, hc]⟩
  | single _ ih => exact ih
  | @link op _ tokens more keyword f g hchain hkeyword hpart ihchain ihpart =>
      have hk : keyword.isSign = false := by simp [Token.isSign, hkeyword]
      obtain ⟨first, rest, hfirst, hhead⟩ := hpart.head_isSign
      obtain ⟨front, last, hlast, htail⟩ := hchain.last_isSign
      have haround : Token.aroundSigns (tokens ++ keyword :: more) =
          Token.aroundSigns tokens ++ Token.aroundSigns more := by
        rw [hlast, List.append_assoc, List.singleton_append,
          Token.aroundSigns_append front htail (by simp [hk]),
          Token.aroundSigns_cons keyword (by simp [hfirst, hhead])]
      rw [haround, Formula.comparisons_join, ihchain.1, ihpart.1]
      exact ⟨by simp, by simp [ihchain.2, ihpart.2, hk]⟩

end Derives

/-! ## Numbers as words -/

namespace Formula

/-- The formula with one and the same comparison everywhere. -/
def shape : Formula → Formula
  | .atom _ => .atom ⟨"", "", .text ""⟩
  | .join op left right => .join op left.shape right.shape

variable {f g : Formula}

theorem length_comparisons_of_shape (h : f.shape = g.shape) :
    f.comparisons.length = g.comparisons.length := by
  induction f generalizing g with
  | atom c =>
      cases g with
      | atom d => simp
      | join => cases h
  | join op left right ihl ihr =>
      cases g with
      | atom d => cases h
      | join op' left' right' =>
          obtain ⟨-, hl, hr⟩ := Formula.join.inj h
          simp [ihl hl, ihr hr]

/-- A formula is its shape and its comparisons. -/
theorem eq_of_shape (h : f.shape = g.shape) (hcomparisons : f.comparisons = g.comparisons) :
    f = g := by
  induction f generalizing g with
  | atom c =>
      cases g with
      | atom d => simpa using hcomparisons
      | join => cases h
  | join op left right ihl ihr =>
      cases g with
      | atom d => cases h
      | join op' left' right' =>
          obtain ⟨rfl, hl, hr⟩ := Formula.join.inj h
          rw [comparisons_join, comparisons_join] at hcomparisons
          obtain ⟨hleft, hright⟩ :=
            List.append_inj hcomparisons (length_comparisons_of_shape hl)
          rw [ihl hl hleft, ihr hr hright]

end Formula

/-- The token, as a word if it is a number. -/
def Token.asWord (token : Token) : Token :=
  { token with kind := if token.kind = .number then .name else token.kind }

theorem Token.kind_asWord {token : Token} (h : token.kind ≠ .number) :
    token.asWord.kind = token.kind :=
  if_neg h

theorem Token.asWord_ne_number (token : Token) : token.asWord.kind ≠ .number := by
  unfold asWord
  split <;> simp_all

theorem Token.isLiteral_asWord {token : Token} (h : token.kind.isLiteral = true) :
    token.asWord.kind.isLiteral = true := by
  unfold asWord
  split <;> simp_all [TokenKind.isLiteral]

/-- Numbers make no difference to a derivation but in the comparisons. -/
theorem Derives.asWords {phrase : Phrase} {depth : Nat} {tokens : List Token} {f : Formula}
    (h : Derives phrase depth tokens f) :
    ∃ g, Derives phrase depth (tokens.map Token.asWord) g ∧ g.shape = f.shape := by
  induction h with
  | comparison hname hsign hvalue =>
      refine ⟨_, .comparison ?_ ?_ (Token.isLiteral_asWord hvalue), rfl⟩
      · rw [Token.kind_asWord (by simp [hname]), hname]
      · rw [Token.kind_asWord (by simp [hsign]), hsign]
  | group hopening _ hclosing ih =>
      obtain ⟨g, hg, hshape⟩ := ih
      refine ⟨g, ?_, hshape⟩
      rw [List.map_cons, List.map_append, List.map_singleton]
      refine .group ?_ hg ?_
      · rw [Token.kind_asWord (by simp [hopening]), hopening]
      · rw [Token.kind_asWord (by simp [hclosing]), hclosing]
  | single _ ih =>
      obtain ⟨g, hg, hshape⟩ := ih
      exact ⟨g, .single hg, hshape⟩
  | @link op _ _ _ _ _ _ _ hkeyword _ ihchain ihpart =>
      obtain ⟨g, hg, hshape⟩ := ihchain
      obtain ⟨g', hg', hshape'⟩ := ihpart
      refine ⟨.join op g g', ?_, by rw [Formula.shape, hshape, hshape', Formula.shape]⟩
      rw [List.map_append, List.map_cons]
      refine .link hg ?_ hg'
      rw [Token.kind_asWord (by simp [hkeyword]), hkeyword]

end Eligibility

import Eligibility.Proofs.Rule.Grammar
import Eligibility.Rule.Printer

/-!
# Parentheses

How many groups a list of tokens opens and how deep they nest, beside what the printer writes
for a formula:

* `Token.openings` and `Token.deepest` count on tokens; `Token.Nested` says of a piece of a
  list that it closes what it opens, whatever stands around it;
* `Formula.parentheses` and `Formula.nesting` count on the formula what its printed text has;
* `Derives.parentheses_le` — whatever tokens denote a formula, they open at least as many groups
  and nest them at least as deep.

The last fact is an induction on the derivation. The grammar asks for a group where the printer
writes one: where the formula is no phrase of the sort that has to stand there.
-/

namespace Eligibility

namespace Token

/-! ## Groups in tokens -/

/-- The number of groups that the tokens open. -/
def openings (tokens : List Token) : Nat := tokens.countP (·.kind == .opening)

/-- The deepest level that is reached from a level on. -/
def deepest (level : Nat) : List Token → Nat
  | [] => level
  | token :: tokens =>
      match token.kind with
      | .opening => deepest (level + 1) tokens
      | .closing => max level (deepest (level - 1) tokens)
      | _ => deepest level tokens

/-- The tokens close every group that they open, and nest their groups so deep. -/
def Nested (tokens : List Token) (depth : Nat) : Prop :=
  ∀ level rest, deepest level (tokens ++ rest) = max (level + depth) (deepest level rest)

/-- The token is neither of the parentheses. -/
def IsPlain (token : Token) : Prop := token.kind ≠ .opening ∧ token.kind ≠ .closing

theorem le_deepest (level : Nat) (tokens : List Token) : level ≤ deepest level tokens := by
  induction tokens generalizing level with
  | nil => exact Nat.le_refl level
  | cons token tokens ih =>
      unfold deepest
      split
      · exact Nat.le_of_succ_le (ih (level + 1))
      · exact Nat.le_max_left _ _
      · exact ih level

theorem openings_of_isPlain {tokens : List Token} (h : ∀ token ∈ tokens, token.IsPlain) :
    openings tokens = 0 := by
  rw [openings, List.countP_eq_zero]
  intro token htoken
  simpa using (h token htoken).1

theorem openings_link {keyword : Token} (h : keyword.IsPlain) (tokens more : List Token) :
    openings (tokens ++ keyword :: more) = openings tokens + openings more := by
  simp [openings, List.countP_append, h.1]

theorem openings_group {opening closing : Token} (hopening : opening.kind = .opening)
    (hclosing : closing.kind = .closing) (tokens : List Token) :
    openings (opening :: (tokens ++ [closing])) = openings tokens + 1 := by
  simp [openings, List.countP_append, hopening, hclosing]

/-- Tokens without a parenthesis leave the level as it is. -/
theorem nested_of_isPlain {tokens : List Token} (h : ∀ token ∈ tokens, token.IsPlain) :
    Nested tokens 0 := by
  intro level rest
  have hskip : deepest level (tokens ++ rest) = deepest level rest := by
    induction tokens with
    | nil => rfl
    | cons token tokens ih =>
        obtain ⟨hopening, hclosing⟩ := h token List.mem_cons_self
        rw [List.cons_append, deepest]
        split
        · exact absurd ‹_› hopening
        · exact absurd ‹_› hclosing
        · exact ih fun t ht => h t (List.mem_cons_of_mem _ ht)
  have hle := le_deepest level rest
  rw [hskip]
  omega

/-- Two pieces with a keyword between them nest as deep as the deeper one. -/
theorem Nested.link {tokens more : List Token} {depth depth' : Nat} (h : Nested tokens depth)
    {keyword : Token} (hkeyword : keyword.IsPlain) (hmore : Nested more depth') :
    Nested (tokens ++ keyword :: more) (max depth depth') := by
  have hplain : Nested [keyword] 0 := nested_of_isPlain (by simpa using hkeyword)
  intro level rest
  rw [List.append_assoc, List.cons_append, h, ← List.singleton_append, hplain, hmore]
  omega

/-- A group is one level deeper than what is in it. -/
theorem Nested.group {tokens : List Token} {depth : Nat} (h : Nested tokens depth)
    {opening closing : Token} (hopening : opening.kind = .opening)
    (hclosing : closing.kind = .closing) :
    Nested (opening :: (tokens ++ [closing])) (depth + 1) := by
  intro level rest
  have hafter : deepest (level + 1) (closing :: rest) = max (level + 1) (deepest level rest) := by
    rw [deepest, hclosing]
    rfl
  rw [List.cons_append, deepest, hopening]
  show deepest (level + 1) (tokens ++ [closing] ++ rest) = _
  rw [List.append_assoc, h, List.singleton_append, hafter]
  omega

/-- Taken by itself, the list reaches the level of its nesting. -/
theorem Nested.deepest_eq {tokens : List Token} {depth : Nat} (h : Nested tokens depth) :
    deepest 0 tokens = depth := by
  have := h 0 []
  rw [List.append_nil, deepest] at this
  omega

end Token

/-! ## Groups in formulas -/

/-- The formula has to be a group where the phrase is asked for. -/
def Phrase.groups : Phrase → Formula → Bool
  | _, .atom _ => false
  | .factor, .join .. => true
  | .chain op, .join op' _ _ => op == .and && op' == .or

namespace Formula

/-- The number of groups in the printed text. -/
def parentheses : Formula → Nat
  | .atom _ => 0
  | .join op left right =>
      left.parentheses + (groupsLeft op left).toNat +
        (right.parentheses + (groupsRight op right).toNat)

/-- How deep the groups in the printed text nest. -/
def nesting : Formula → Nat
  | .atom _ => 0
  | .join op left right =>
      max (left.nesting + (groupsLeft op left).toNat)
        (right.nesting + (groupsRight op right).toNat)

/-- On the left of a join stands the chain that it carries on. -/
theorem groupsLeft_eq (op : Connective) (left : Formula) :
    groupsLeft op left = (Phrase.chain op).groups left := by
  cases left with
  | atom c => simp [groupsLeft, isJoinBy, Phrase.groups]
  | join op' l r => cases op <;> cases op' <;> rfl

/-- On the right of a join stands one more part of the chain. -/
theorem groupsRight_eq (op : Connective) (right : Formula) :
    groupsRight op right = (Phrase.part op).groups right := by
  cases right with
  | atom c => cases op <;> rfl
  | join op' l r => cases op <;> cases op' <;> rfl

/-- A chain leaves as a group only what each of its parts would. -/
theorem groups_chain_le (op : Connective) (f : Formula) :
    ((Phrase.chain op).groups f).toNat ≤ ((Phrase.part op).groups f).toNat := by
  cases f with
  | atom c => exact Nat.le_refl 0
  | join op' l r =>
      cases op with
      | and => exact Bool.toNat_le _
      | or => exact Nat.zero_le _

/-- A join is a chain of its own connective. -/
theorem groups_chain_join (op : Connective) (left right : Formula) :
    (Phrase.chain op).groups (.join op left right) = false := by
  cases op <;> rfl

/-- A whole text needs no group around it. -/
theorem groups_expression (f : Formula) : Phrase.expression.groups f = false := by
  cases f <;> rfl

end Formula

/-! ## No text has fewer -/

open Token in
/-- **The printer's groups are needed.** Tokens that denote a formula, as whatever phrase, open at
least the groups that the printer writes for it there; and they nest their own groups at least
as deep as the printer does, but within the limit. -/
theorem Derives.parentheses_le {phrase : Phrase} {depth : Nat} {tokens : List Token} {f : Formula}
    (h : Derives phrase depth tokens f) :
    f.parentheses + (phrase.groups f).toNat ≤ openings tokens ∧
      ∃ level ≤ depth, Nested tokens level ∧ f.nesting + (phrase.groups f).toNat ≤ level := by
  induction h with
  | @comparison _ name sign value hname hsign hvalue =>
      have hplain : ∀ token ∈ [name, sign, value], token.IsPlain := by
        intro token htoken
        simp only [List.mem_cons, List.not_mem_nil, or_false] at htoken
        rcases htoken with rfl | rfl | rfl
        · simp [IsPlain, hname]
        · simp [IsPlain, hsign]
        · constructor <;> intro hkind <;> rw [hkind] at hvalue <;> exact absurd hvalue (by decide)
      exact ⟨Nat.zero_le _, 0, Nat.zero_le _, nested_of_isPlain hplain, Nat.le_refl 0⟩
  | @group _ opening closing tokens f hopening _ hclosing ih =>
      obtain ⟨hcount, level, hlevel, hnested, hdeep⟩ := ih
      -- a group that is not needed is the only place where tokens have more than the printer
      have hgroups : (Phrase.factor.groups f).toNat ≤ 1 := Bool.toNat_le _
      rw [openings_group hopening hclosing]
      exact ⟨by omega, level + 1, by omega, hnested.group hopening hclosing, by omega⟩
  | @single op _ _ f _ ih =>
      obtain ⟨hcount, level, hlevel, hnested, hdeep⟩ := ih
      have hgroups := f.groups_chain_le op
      exact ⟨by omega, level, hlevel, hnested, by omega⟩
  | @link op _ tokens more keyword f g _ hkeyword _ ihchain ihpart =>
      obtain ⟨hcount, level, hlevel, hnested, hdeep⟩ := ihchain
      obtain ⟨hcount', level', hlevel', hnested', hdeep'⟩ := ihpart
      have hplain : keyword.IsPlain := by simp [IsPlain, hkeyword]
      rw [Formula.groups_chain_join, openings_link hplain, Formula.parentheses, Formula.nesting,
        Formula.groupsLeft_eq, Formula.groupsRight_eq, Bool.toNat_false]
      exact ⟨by omega, _, by omega, hnested.link hplain hnested', by omega⟩

end Eligibility

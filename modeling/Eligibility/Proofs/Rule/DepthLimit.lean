import Eligibility.Proofs.Rule.Steps

/-!
# The limit on open groups

The parser counts down the groups that may still be opened. Two facts make this a limit on the
nesting of parentheses, and on nothing else:

* a run under one limit is a run under every higher one (`Reaches.widen`), and it ends there in the
  same way unless the limit itself is what ends it (`Ends.widen`);
* the groups that are open are the parentheses that the tokens read so far have not closed
  (`Reaches.unclosed_eq`), and every one of them was opened below the limit
  (`Reaches.unclosed_lt`).
-/

namespace Eligibility

namespace Token

/-- The number of open parentheses behind a token. -/
def levelBehind (level : Nat) (token : Token) : Nat :=
  match token.kind with
  | .opening => level + 1
  | .closing => level - 1
  | _ => level

/-- The number of opening parentheses that the tokens do not close. -/
def unclosed (tokens : List Token) : Nat := tokens.foldl levelBehind 0

theorem unclosed_append (tokens more : List Token) :
    unclosed (tokens ++ more) = more.foldl levelBehind (unclosed tokens) :=
  List.foldl_append

/-- The token is the first opening parenthesis with so many unclosed ones before it. -/
def IsFirstOpening (level : Nat) (tokens : List Token) (opening : Token) : Prop :=
  ∃ front back, tokens = front ++ opening :: back ∧ opening.kind = .opening ∧
    unclosed front = level ∧
    ∀ earlier token, earlier ++ [token] <+: front → token.kind = .opening →
      unclosed earlier ≠ level

end Token

namespace Parser

open Token

variable {limit extra : Nat} {s s' : State} {tokens read more : List Token}

/-! ## Higher limits -/

/-- The state with room for so many more groups. -/
def State.widen (extra : Nat) : State → State
  | .due room open_ chain => .due (room + extra) open_ chain
  | .past room open_ chain f => .past (room + extra) open_ chain f

theorem Moves.widen (h : Moves s more s') (extra : Nat) :
    Moves (s.widen extra) more (s'.widen extra) := by
  cases h with
  | opening hopening =>
      rw [State.widen, Nat.add_right_comm]
      exact .opening hopening
  | comparison hc => exact .comparison hc
  | and hand => exact .and hand
  | or hor => exact .or hor
  | closing hclosing =>
      simp only [State.widen, Nat.add_right_comm]
      exact .closing hclosing

theorem Reaches.widen (h : Reaches s read s') (extra : Nat) :
    Reaches (s.widen extra) read (s'.widen extra) := by
  induction h with
  | refl => exact .refl
  | step _ hmove ih => exact ih.step (hmove.widen extra)

/-- Only the limit itself is an end that more room takes away. -/
theorem Ends.widen {result : Except RuleTextError Formula} (h : Ends s tokens result)
    (hresult : ∀ position, result ≠ .error (.syntaxError ⟨.tooDeep, position⟩)) (extra : Nat) :
    Ends (s.widen extra) tokens result := by
  cases h with
  | formula => exact .formula
  | nothingLeft => exact .nothingLeft
  | tooDeep => exact absurd rfl (hresult _)
  | tooFew hopening hfew => exact .tooFew hopening hfew
  | expectedName hopening hname => exact .expectedName hopening hname
  | expectedOperator hname hsign => exact .expectedOperator hname hsign
  | expectedLiteral hname hsign hvalue => exact .expectedLiteral hname hsign hvalue
  | unreadable hname hsign hvalue hnumber => exact .unreadable hname hsign hvalue hnumber
  | unclosedAtEnd => exact .unclosedAtEnd
  | unclosed hop hclosing => exact .unclosed hop hclosing
  | trailing hop => exact .trailing hop

/-- A result that the limit is not the cause of stays under every higher limit. -/
theorem parse_add (h : ∀ position, parse limit tokens ≠ .error (.syntaxError ⟨.tooDeep, position⟩))
    (extra : Nat) : parse (limit + extra) tokens = parse limit tokens := by
  obtain ⟨read, rest, s, htokens, hreach, hend⟩ := parse_eq_iff.mp (Eq.refl (parse limit tokens))
  exact parse_eq_iff.mpr
    ⟨read, rest, s.widen extra, htokens, hreach.widen extra, hend.widen h extra⟩

/-! ## Open groups and unclosed parentheses -/

/-- No token of a comparison is a parenthesis. -/
theorem levelBehind_of_comparison? {name sign value : Token} {c : Comparison}
    (hc : comparison? name sign value = .ok c) :
    ∀ token ∈ [name, sign, value], token.kind ≠ .opening ∧
      ∀ level, levelBehind level token = level := by
  obtain ⟨hname, hsign, hvalue, -⟩ := kinds_of_comparison? hc
  intro token htoken
  simp only [List.mem_cons, List.not_mem_nil, or_false] at htoken
  rcases htoken with rfl | rfl | rfl
  · simp [levelBehind, hname]
  · simp [levelBehind, hsign]
  · cases hkind : token.kind <;> simp_all [levelBehind, TokenKind.isLiteral]

/-- The open groups are the parentheses that have not been closed. -/
theorem Reaches.unclosed_eq (h : Reaches (.start limit) read s) :
    unclosed read = s.groups.length := by
  induction h with
  | refl => rfl
  | step _ hmove ih =>
      rw [unclosed_append, ih]
      cases hmove with
      | opening hopening => simp [levelBehind, hopening, State.groups]
      | comparison hc =>
          have hlevel := levelBehind_of_comparison? hc
          simp [State.groups, (hlevel _ _).2]
      | and hand => simp [levelBehind, hand, State.groups]
      | or hor => simp [levelBehind, hor, State.groups]
      | closing hclosing => simp [levelBehind, hclosing, State.groups]

/-- A step that takes an opening parenthesis takes nothing else, and needs room for it. -/
theorem Moves.eq_singleton_of_opening (h : Moves s more s') {token : Token} (htoken : token ∈ more)
    (hopening : token.kind = .opening) : more = [token] ∧ 0 < s.room := by
  cases h with
  | opening => exact ⟨by rw [List.mem_singleton.mp htoken], Nat.succ_pos _⟩
  | comparison hc => exact absurd hopening (levelBehind_of_comparison? hc token htoken).1
  | and hand => simp_all
  | or hor => simp_all
  | closing hclosing => simp_all

/-- What begins a text in two pieces begins the first one or reaches into the second. -/
theorem prefix_append_cases {front : List Token} {token : Token}
    (h : front ++ [token] <+: read ++ more) :
    front ++ [token] <+: read ∨ ∃ inner, front = read ++ inner ∧ inner ++ [token] <+: more := by
  rcases Nat.lt_or_ge front.length read.length with hlt | hge
  · exact .inl (List.prefix_of_prefix_length_le h (List.prefix_append read more) (by simp; omega))
  · obtain ⟨inner, rfl⟩ := List.prefix_of_prefix_length_le (List.prefix_append read more)
      ((List.prefix_append front [token]).trans h) hge
    rw [List.append_assoc, List.prefix_append_right_inj] at h
    exact .inr ⟨inner, rfl, h⟩

/-- Every parenthesis that was opened had fewer unclosed ones before it than the limit. -/
theorem Reaches.unclosed_lt (h : Reaches (.start limit) read s) {front : List Token}
    {token : Token} (hfront : front ++ [token] <+: read) (hopening : token.kind = .opening) :
    unclosed front < limit := by
  induction h with
  | refl => simp at hfront
  | step hreach hmove ih =>
      rcases prefix_append_cases hfront with hread | ⟨inner, rfl, hinner⟩
      · exact ih hread
      · -- the parenthesis is the whole step, so all that was read stands before it
        have hmem := hinner.subset (List.mem_append_right inner (List.mem_singleton.mpr rfl))
        obtain ⟨rfl, hroom⟩ := hmove.eq_singleton_of_opening hmem hopening
        obtain rfl : inner = [] := by simpa using hinner.length_le
        rw [List.append_nil, hreach.unclosed_eq]
        have := hreach.room_add
        omega

/-! ## Main result -/

/-- **The limit on nesting is conservative and exact.** Under a higher limit the parser returns
the same, formula or error, unless it runs into the lower limit. Where it does, it stops at the
first opening parenthesis that has as many unclosed ones before it as the limit allows. -/
theorem parse_of_limit_le {limit limit' : Nat} (hle : limit ≤ limit') (tokens : List Token) :
    ((∃ position, parse limit tokens = .error (.syntaxError ⟨.tooDeep, position⟩)) ∨
      parse limit' tokens = parse limit tokens) ∧
    ∀ position, parse limit tokens = .error (.syntaxError ⟨.tooDeep, position⟩) →
      ∃ opening, IsFirstOpening limit tokens opening ∧ position = some opening.position := by
  constructor
  · by_cases hdeep : ∃ position, parse limit tokens = .error (.syntaxError ⟨.tooDeep, position⟩)
    · exact .inl hdeep
    · obtain ⟨extra, rfl⟩ := Nat.exists_eq_add_of_le hle
      exact .inr (parse_add (not_exists.mp hdeep) extra)
  · intro position hparse
    obtain ⟨read, rest, s, rfl, hreach, hend⟩ := parse_eq_iff.mp hparse
    have hunclosed := hreach.unclosed_eq
    have hroom := hreach.room_add
    -- no other end is a refusal for depth
    cases hend with
    | @tooDeep open_ chain opening tokens hopening =>
        refine ⟨opening, ⟨read, tokens, rfl, hopening, ?_, ?_⟩, rfl⟩
        · rw [hunclosed, ← hroom, State.room, Nat.zero_add]
        · intro earlier token hearlier htoken
          exact Nat.ne_of_lt (hreach.unclosed_lt hearlier htoken)

/-- `(a = 1) OR ((b = 2))`: the group in front is closed again, so that it is the third parenthesis
that has one unclosed before it. -/
theorem parse_of_limit_le_of_sibling :
    let tokens : List Token :=
      [⟨.opening, "(", 0⟩, ⟨.name, "a", 1⟩, ⟨.comparison, "=", 3⟩, ⟨.number, "1", 5⟩,
        ⟨.closing, ")", 6⟩, ⟨.connective .or, "OR", 8⟩, ⟨.opening, "(", 11⟩,
        ⟨.opening, "(", 12⟩, ⟨.name, "b", 13⟩, ⟨.comparison, "=", 15⟩, ⟨.number, "2", 17⟩,
        ⟨.closing, ")", 18⟩, ⟨.closing, ")", 19⟩]
    parse 1 tokens = .error (.syntaxError ⟨.tooDeep, some 12⟩) ∧
      (∃ opening, IsFirstOpening 1 tokens opening ∧ some 12 = some opening.position) ∧
      2 ≤ 64 ∧ parse 64 tokens = parse 2 tokens := by
  intro tokens
  have hdeep : parse 1 tokens = .error (.syntaxError ⟨.tooDeep, some 12⟩) := by rfl
  refine ⟨hdeep, (parse_of_limit_le (Nat.le_refl 1) tokens).2 _ hdeep, by decide, ?_⟩
  refine (parse_of_limit_le (by decide : 2 ≤ 64) tokens).1.resolve_left ?_
  rintro ⟨position, htooDeep⟩
  obtain ⟨f, hf⟩ : ∃ f, parse 2 tokens = .ok f := ⟨_, by rfl⟩
  exact absurd (hf.symm.trans htooDeep) (by simp)

end Parser

end Eligibility

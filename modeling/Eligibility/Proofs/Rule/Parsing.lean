import Eligibility.Proofs.Rule.Steps

/-!
# The parser reads the grammar

The parser goes through the tokens once and keeps what stands before the factor at hand; the
grammar builds phrases from phrases. They agree on every list of tokens whose numbers are read,
under every limit on the depth of groups:

* completeness (`passes_of_derives`) — in front of the tokens of a phrase the parser gets to
  what follows them with the phrase's formula in hand, whatever stands around, if the numbers of
  the phrase are read, and stops at a number that is not (`exists_error_of_derives`);
* soundness (`derives_of_parse`) — what has been read before the factor at hand is always a
  sequence of open groups and begun chains (`Before`), so what the parser returns at the end
  is the formula of a derivation of all tokens.
-/

namespace Eligibility.Parser

variable {room depth : Nat} {open_ : List Group} {chain : Chain} {f : Formula} {token : Token}
  {tokens : List Token}

/-! ## Completeness -/

/-- The parser gets past the tokens of a phrase, with the formula in hand. A factor leaves
the chain as it is; of a term and of an expression the last factor is still at hand, and the
chain then completes it to the formula. -/
def Passes (depth : Nat) (tokens : List Token) (f : Formula) : Phrase → Prop
  | .factor => ∀ room, depth ≤ room → ∀ open_ chain rest,
      factor room open_ chain (tokens ++ rest) = after room open_ chain f rest
  | .chain .and => ∀ room, depth ≤ room → ∀ open_ disjunction rest, ∃ conjunction g,
      factor room open_ ⟨disjunction, none⟩ (tokens ++ rest) =
        after room open_ ⟨disjunction, conjunction⟩ g rest ∧
      Chain.term ⟨disjunction, conjunction⟩ g = f
  | .chain .or => ∀ room, depth ≤ room → ∀ open_ rest, ∃ chain g,
      factor room open_ .empty (tokens ++ rest) = after room open_ chain g rest ∧
      chain.expression g = f

/-- The parser gets past every phrase that it has room for, if it reads the numbers in it. -/
theorem passes_of_derives {phrase : Phrase} (h : Derives phrase depth tokens f)
    (hconverts : ∀ token ∈ tokens, token.Converts) : Passes depth tokens f phrase := by
  induction h with
  | @comparison _ name sign value hname hsign hvalue =>
      intro room _ open_ chain rest
      exact factor_comparison (hconverts value (by simp)) hname hsign hvalue
  | group hopening _ hclosing ih =>
      intro room hroom open_ chain rest
      obtain ⟨room, rfl⟩ : ∃ r, room = r + 1 := ⟨room - 1, by omega⟩
      have hinner := ih (fun token ht => hconverts token (by simp [ht])) room (by omega)
      rw [List.cons_append, factor_opening hopening, List.append_assoc, List.singleton_append]
      obtain ⟨inner, g, hpass, hg⟩ := hinner (⟨_, chain⟩ :: open_) (_ :: rest)
      rw [hpass, after_closing hclosing, hg]
  | @single op _ _ _ _ ih =>
      have hpart := ih hconverts
      cases op with
      | and =>
          intro room hroom open_ disjunction rest
          exact ⟨none, _, hpart room hroom open_ _ rest, rfl⟩
      | or =>
          intro room hroom open_ rest
          obtain ⟨conjunction, g, hpass, hg⟩ := hpart room hroom open_ none rest
          exact ⟨_, g, hpass, hg⟩
  | @link op _ tokens more keyword f g _ hkeyword _ ihchain ihpart =>
      have hchain := ihchain fun token ht => hconverts token (by simp [ht])
      have hpart := ihpart fun token ht => hconverts token (by simp [ht])
      cases op with
      | and =>
          intro room hroom open_ disjunction rest
          obtain ⟨conjunction, g', hpass, hg⟩ :=
            hchain room hroom open_ disjunction (keyword :: more ++ rest)
          refine ⟨some f, g, ?_, rfl⟩
          rw [List.append_assoc, hpass, List.cons_append, after_and hkeyword, hg]
          exact hpart room hroom open_ _ rest
      | or =>
          intro room hroom open_ rest
          obtain ⟨chain, g', hpass, hg⟩ := hchain room hroom open_ (keyword :: more ++ rest)
          obtain ⟨conjunction, h', hlast, hterm⟩ := hpart room hroom open_ (some f) rest
          refine ⟨⟨some f, conjunction⟩, h', ?_, congrArg (Formula.join .or f) hterm⟩
          rw [List.append_assoc, hpass, List.cons_append, after_or hkeyword, hg]
          exact hlast

/-- The parser returns the formula of every derivation within its limit, if it reads the numbers. -/
theorem parse_of_derives (hconverts : ∀ token ∈ tokens, token.Converts)
    (h : Derives .expression depth tokens f) : parse depth tokens = .ok f := by
  obtain ⟨chain, g, hpass, hg⟩ := passes_of_derives h hconverts depth (Nat.le_refl _) [] []
  rw [List.append_nil] at hpass
  rw [parse, hpass, after.eq_def]
  exact congrArg Except.ok hg

/-- The parser stops in a phrase at a number that it does not read. -/
def StopsIn (depth : Nat) (tokens : List Token) (phrase : Phrase) (e : Number.ConversionError) :
    Prop :=
  ∀ room, depth ≤ room → ∀ open_ chain, Fits phrase chain → ∀ rest,
    factor room open_ chain (tokens ++ rest) = .error (.number e)

/-- The parser gets no further than the first number that it does not read. -/
theorem exists_error_of_derives {phrase : Phrase} (h : Derives phrase depth tokens f)
    (hnot : ¬ ∀ token ∈ tokens, token.Converts) :
    ∃ token ∈ tokens, ∃ e, token.kind = .number ∧ Number.read token.lexeme = .error e ∧
      StopsIn depth tokens phrase e := by
  induction h with
  | @comparison _ name sign value hname hsign hvalue =>
      have hkind : value.kind = .number := Decidable.byContradiction fun hkind =>
        hnot (by simp [Token.converts_of_ne, hname, hsign, hkind])
      cases hread : Number.read value.lexeme with
      | ok n => exact absurd (by simp [Token.Converts, *]) hnot
      | error e =>
          refine ⟨value, by simp, e, hkind, hread, fun room _ open_ chain _ rest => ?_⟩
          have hend : Ends (.due room open_ chain) (name :: sign :: value :: rest) _ :=
            .unreadable hname hsign hkind hread
          exact hend.resume_eq
  | @group _ opening closing tokens _ hopening _ hclosing ih =>
      have hinner : ¬ ∀ token ∈ tokens, token.Converts := fun hinner =>
        hnot (by simpa [Token.converts_of_ne, hopening, hclosing, or_imp, forall_and] using hinner)
      obtain ⟨token, htoken, e, hkind, hread, hstops⟩ := ih hinner
      refine ⟨token, by simp [htoken], e, hkind, hread, fun room hroom open_ chain _ rest => ?_⟩
      obtain ⟨room, rfl⟩ : ∃ r, room = r + 1 := ⟨room - 1, by omega⟩
      rw [List.cons_append, factor_opening hopening, List.append_assoc]
      exact hstops room (by omega) _ .empty rfl _
  | single _ ih =>
      obtain ⟨token, htoken, e, hkind, hread, hstops⟩ := ih hnot
      exact ⟨token, htoken, e, hkind, hread, fun room hroom open_ chain hchain =>
        hstops room hroom open_ chain hchain.part⟩
  | @link op _ tokens more keyword f g hchain hkeyword _ ihchain ihpart =>
      by_cases hfront : ∀ token ∈ tokens, token.Converts
      · -- the parser gets to the keyword, and stops in the part behind it
        have hback : ¬ ∀ token ∈ more, token.Converts := by
          intro hback
          refine hnot fun token htoken => ?_
          rcases List.mem_append.mp htoken with htoken | htoken
          · exact hfront token htoken
          · rcases List.mem_cons.mp htoken with rfl | htoken
            · exact Token.converts_of_ne (by simp [hkeyword])
            · exact hback token htoken
        obtain ⟨token, htoken, e, hkind, hread, hstops⟩ := ihpart hback
        have hpasses := passes_of_derives hchain hfront
        refine ⟨token, by simp [htoken], e, hkind, hread, ?_⟩
        intro room hroom open_ chain hfits rest
        rw [List.append_assoc, List.cons_append]
        cases op with
        | and =>
            obtain ⟨disjunction, conjunction⟩ := chain
            obtain rfl : conjunction = none := hfits
            obtain ⟨conjunction, g, hpass, -⟩ :=
              hpasses room hroom open_ disjunction (keyword :: (more ++ rest))
            rw [hpass, after_and hkeyword]
            exact hstops room hroom open_ _ trivial rest
        | or =>
            obtain rfl : chain = .empty := hfits
            obtain ⟨chain, g, hpass, -⟩ := hpasses room hroom open_ (keyword :: (more ++ rest))
            rw [hpass, after_or hkeyword]
            refine hstops room hroom open_ _ ?_ rest
            rfl
      · obtain ⟨token, htoken, e, hkind, hread, hstops⟩ := ihchain hfront
        refine ⟨token, by simp [htoken], e, hkind, hread, ?_⟩
        intro room hroom open_ chain hfits rest
        rw [List.append_assoc]
        exact hstops room hroom open_ chain hfits _

/-! ## Soundness -/

/-- The tokens begin a chain: there are none, or they are a chain and its keyword, so that
one more part is to come. -/
def Begins (depth : Nat) (op : Connective) (tokens : List Token) : Option Formula → Prop
  | none => tokens = []
  | some f => ∃ front keyword, tokens = front ++ [keyword] ∧
      keyword.kind = .connective op ∧ Derives (.chain op) depth front f

/-- The next part of a begun chain completes it. -/
theorem Begins.complete {op : Connective} {more : List Token} {g : Formula} :
    ∀ {left : Option Formula}, Begins depth op tokens left → Derives (.part op) depth more g →
      Derives (.chain op) depth (tokens ++ more)
        (match left with | none => g | some f => .join op f g)
  | none, (h : tokens = []), hpart => by
      rw [h, List.nil_append]
      exact .single hpart
  | some _, ⟨front, keyword, htokens, hkeyword, hchain⟩, hpart => by
      rw [htokens, List.append_assoc, List.singleton_append]
      exact .link hchain hkeyword hpart

/-- The tokens are what stands before a factor: a begun expression, then a begun term. -/
def Chain.Stands (depth : Nat) (tokens : List Token) (chain : Chain) : Prop :=
  ∃ front back, tokens = front ++ back ∧ Begins depth .or front chain.disjunction ∧
    Begins depth .and back chain.conjunction

theorem Chain.Stands.empty : Chain.empty.Stands depth [] := ⟨[], [], rfl, rfl, rfl⟩

/-- With the next factor the chain is an expression. -/
theorem Chain.Stands.expression (h : chain.Stands depth tokens) {more : List Token}
    (hfactor : Derives .factor depth more f) :
    Derives .expression depth (tokens ++ more) (chain.expression f) := by
  obtain ⟨front, back, rfl, hfront, hback⟩ := h
  rw [List.append_assoc]
  exact hfront.complete (hback.complete hfactor)

/-- AND after a factor begins the term anew, with the factor in it. -/
theorem Chain.Stands.and (h : chain.Stands depth tokens) {more : List Token}
    (hfactor : Derives .factor depth more f) {keyword : Token}
    (hkeyword : keyword.kind = .connective .and) :
    Chain.Stands depth (tokens ++ (more ++ [keyword]))
      ⟨chain.disjunction, some (chain.term f)⟩ := by
  obtain ⟨front, back, rfl, hfront, hback⟩ := h
  refine ⟨front, back ++ more ++ [keyword], by simp, hfront, ?_⟩
  exact ⟨back ++ more, keyword, rfl, hkeyword, hback.complete hfactor⟩

/-- OR after a factor begins the expression anew, with the term in it. -/
theorem Chain.Stands.or (h : chain.Stands depth tokens) {more : List Token}
    (hfactor : Derives .factor depth more f) {keyword : Token}
    (hkeyword : keyword.kind = .connective .or) :
    Chain.Stands depth (tokens ++ (more ++ [keyword])) ⟨some (chain.expression f), none⟩ := by
  refine ⟨tokens ++ more ++ [keyword], [], by simp, ?_, rfl⟩
  exact ⟨tokens ++ more, keyword, rfl, hkeyword, h.expression hfactor⟩

/-- The tokens are what has been read when these groups are open and this chain is at hand:
in front of each opening parenthesis what stands before its group. -/
def Before (room : Nat) (tokens : List Token) : List Group → Chain → Prop
  | [], chain => chain.Stands room tokens
  | group :: outer, chain => ∃ front opening back, tokens = front ++ opening :: back ∧
      opening.kind = .opening ∧ Before (room + 1) front outer group.outer ∧
      chain.Stands room back

/-- Reading on changes the chain at hand and nothing around it. -/
theorem Before.append {more : List Token} {chain' : Chain}
    (hstep : ∀ tokens, chain.Stands room tokens → chain'.Stands room (tokens ++ more)) :
    ∀ {open_ : List Group}, Before room tokens open_ chain →
      Before room (tokens ++ more) open_ chain'
  | [], h => hstep _ h
  | _ :: _, ⟨front, opening, back, htokens, hopening, houter, hchain⟩ =>
      ⟨front, opening, back ++ more, by simp [htokens], hopening, houter, hstep _ hchain⟩

/-- The tokens are what has been read when the parser stands here. -/
def State.Stands (tokens : List Token) : State → Prop
  | .due room open_ chain => Before room tokens open_ chain
  | .past room open_ chain f => ∃ front more, tokens = front ++ more ∧
      Before room front open_ chain ∧ Derives .factor room more f

/-- Each step reads on in the grammar. -/
theorem Moves.stands {s s' : State} {more : List Token} (h : Moves s more s')
    (hs : s.Stands tokens) : s'.Stands (tokens ++ more) := by
  cases h with
  | opening hopening => exact ⟨tokens, _, [], rfl, hopening, hs, .empty⟩
  | comparison hc =>
      obtain ⟨hname, hsign, hvalue, -, rfl⟩ := kinds_of_comparison? hc
      exact ⟨tokens, _, rfl, hs, .comparison hname hsign hvalue⟩
  | and hand =>
      obtain ⟨front, factor, rfl, hbefore, hfactor⟩ := hs
      rw [List.append_assoc]
      exact hbefore.append fun _ hchain => hchain.and hfactor hand
  | or hor =>
      obtain ⟨front, factor, rfl, hbefore, hfactor⟩ := hs
      rw [List.append_assoc]
      exact hbefore.append fun _ hchain => hchain.or hfactor hor
  | @closing _ _ _ _ _ closing hclosing =>
      obtain ⟨_, factor, rfl, ⟨front, opening, back, rfl, hopening, houter, hchain⟩, hfactor⟩ := hs
      -- what was read since the parenthesis is the expression of the group
      refine ⟨front, opening :: (back ++ factor ++ [closing]), by simp, houter, ?_⟩
      exact .group hopening (hchain.expression hfactor) hclosing

theorem Reaches.stands {s : State} {read : List Token} (h : Reaches (.start depth) read s) :
    s.Stands read := by
  induction h with
  | refl => exact .empty
  | step _ hmove ih => exact hmove.stands ih

/-- What the parser returns is the formula of a derivation within its limit, and all numbers of the
tokens are read. -/
theorem derives_of_parse (h : parse depth tokens = .ok f) :
    Derives .expression depth tokens f ∧ ∀ token ∈ tokens, token.Converts := by
  obtain ⟨read, rest, s, rfl, hreach, hend⟩ := parse_eq_iff.mp h
  have hroom := hreach.room_add
  cases hend with
  | @formula room chain f =>
      obtain ⟨front, more, rfl, hchain, hfactor⟩ := hreach.stands
      obtain rfl : room = depth := by simpa [State.groups, State.room] using hroom
      rw [List.append_nil]
      exact ⟨hchain.expression hfactor, hreach.converts⟩

/-- The parser finds exactly the derivations within its limit whose numbers are read. -/
theorem parse_eq_ok_iff : parse depth tokens = .ok f ↔
    Derives .expression depth tokens f ∧ ∀ token ∈ tokens, token.Converts :=
  ⟨derives_of_parse, fun h => parse_of_derives h.2 h.1⟩

/-! ## Unambiguity -/

/-- No list of tokens denotes two formulas. Its numbers need not be read: as words they are, and
derivations see no other difference. -/
theorem eq_of_derives {depth' : Nat} {g : Formula} (hf : Derives .expression depth tokens f)
    (hg : Derives .expression depth' tokens g) : f = g := by
  obtain ⟨f', hf', hshape⟩ := hf.asWords
  obtain ⟨g', hg', hshape'⟩ := hg.asWords
  have hconverts : ∀ token ∈ tokens.map Token.asWord, token.Converts := by
    intro token htoken
    obtain ⟨token, -, rfl⟩ := List.mem_map.mp htoken
    exact Token.converts_of_ne token.asWord_ne_number
  -- under the higher limit the parser would return both
  have hleft := parse_of_derives hconverts (hf'.mono (Nat.le_max_left depth depth'))
  have hright := parse_of_derives hconverts (hg'.mono (Nat.le_max_right depth depth'))
  obtain rfl : f' = g' := Except.ok.inj (hleft.symm.trans hright)
  exact Formula.eq_of_shape (hshape.symm.trans hshape')
    (hf.comparisons_eq.1.trans hg.comparisons_eq.1.symm)

/-! ## Main result -/

/-- **The parser reads the grammar and nothing else, as far as it reads the numbers.** On tokens
whose numbers pass the test for numbers, and under every limit on the depth of groups:

* a formula is returned exactly when the whole list derives, within the limit, from an
  expression that denotes it, and all its numbers are read;
* if such a list has a number that is not read, then the parser ends with that reason: the number
  is an integer with too many digits;
* the comparisons of a formula that is returned are, from left to right, the triples of tokens
  around the comparison signs, and no sign is left over;
* no list of tokens denotes two formulas, even under two limits. -/
theorem parse_iff_derives (maxDepth : Nat) (tokens : List Token)
    (hread : ∀ token ∈ tokens, token.Readable) :
    (∀ f, parse maxDepth tokens = .ok f ↔
      Derives .expression maxDepth tokens f ∧ ∀ token ∈ tokens, token.Converts) ∧
    (∀ f, Derives .expression maxDepth tokens f → (∃ token ∈ tokens, ¬ token.Converts) →
      ∃ token ∈ tokens, ∃ count, token.kind = .number ∧ Number.maxDigits < count ∧
        Number.read token.lexeme = .error (.tooManyDigits count) ∧
        parse maxDepth tokens = .error (.number (.tooManyDigits count))) ∧
    (∀ f, parse maxDepth tokens = .ok f →
      f.comparisons = (Token.aroundSigns tokens).map (fun (name, sign, value) =>
          Token.comparison name sign value) ∧
        (Token.aroundSigns tokens).map (·.2.1) = tokens.filter (·.isSign)) ∧
    ∀ depth depth' f g, Derives .expression depth tokens f →
      Derives .expression depth' tokens g → f = g := by
  refine ⟨fun f => parse_eq_ok_iff, ?_, fun f h => (derives_of_parse h).1.comparisons_eq,
    fun _ _ _ _ => eq_of_derives⟩
  rintro f hf ⟨token, htoken, hnot⟩
  obtain ⟨token, htoken, e, hkind, herror, hstops⟩ :=
    exists_error_of_derives hf fun hall => hnot (hall token htoken)
  have hparse := hstops maxDepth (Nat.le_refl _) [] .empty rfl []
  rw [List.append_nil] at hparse
  rcases Number.read_of_isNumericText (hread token htoken hkind) with ⟨n, hn⟩ | ⟨count, hlt, hlong⟩
  · cases hn.symm.trans herror
  · obtain rfl := Except.error.inj (herror.symm.trans hlong)
    exact ⟨token, htoken, count, hkind, hlt, hlong, hparse⟩

/-- `(a = 1 OR b <> 'x') AND c < d`: the group comes first and its quotes are gone. -/
theorem parse_iff_derives_of_group :
    let tokens : List Token :=
      [⟨.opening, "(", 0⟩, ⟨.name, "a", 1⟩, ⟨.comparison, "=", 3⟩, ⟨.number, "1", 5⟩,
        ⟨.connective .or, "OR", 7⟩, ⟨.name, "b", 10⟩, ⟨.comparison, "<>", 12⟩,
        ⟨.quoted, "'x'", 15⟩, ⟨.closing, ")", 18⟩, ⟨.connective .and, "AND", 20⟩,
        ⟨.name, "c", 24⟩, ⟨.comparison, "<", 26⟩, ⟨.name, "d", 28⟩]
    let f : Formula :=
      .join .and (.join .or (.atom ⟨"a", "=", .number (.int 1)⟩) (.atom ⟨"b", "<>", .text "x"⟩))
        (.atom ⟨"c", "<", .text "d"⟩)
    (∀ token ∈ tokens, token.Readable) ∧ Derives .expression 1 tokens f ∧
      ¬ ∃ g, Derives .expression 0 tokens g := by
  intro tokens f
  have hread : ∀ token ∈ tokens, token.Readable := by
    intro token htoken hkind
    simp only [tokens, List.mem_cons, List.not_mem_nil, or_false] at htoken
    rcases htoken with rfl | rfl | rfl | rfl | rfl | rfl | rfl | rfl | rfl | rfl | rfl | rfl | rfl
      <;> first | exact absurd hkind (by decide) | decide
  obtain ⟨hderives, hconverts⟩ := ((parse_iff_derives 1 tokens hread).1 f).mp (by rfl)
  refine ⟨hread, hderives, ?_⟩
  rintro ⟨g, hg⟩
  have hparse := ((parse_iff_derives 0 tokens hread).1 g).mpr ⟨hg, hconverts⟩
  have htooDeep : parse 0 tokens = .error (.syntaxError ⟨.tooDeep, some 0⟩) := by rfl
  exact absurd (htooDeep.symm.trans hparse) (by simp)

/-- A comparison with a number of too many digits derives, and is not read. -/
theorem not_parsed_of_long_number :
    let value : Token := ⟨.number, String.ofList (List.replicate 4301 '1'), 4⟩
    let tokens : List Token := [⟨.name, "a", 0⟩, ⟨.comparison, "=", 2⟩, value]
    (∀ token ∈ tokens, token.Readable) ∧ (∃ f, Derives .expression 0 tokens f) ∧
      parse 0 tokens = .error (.number (.tooManyDigits 4301)) := by
  intro value tokens
  have hnumeric : Number.isNumericText value.lexeme = true :=
    Number.Numeral.isNumericText_ones (by decide)
  have hlong : Number.read value.lexeme = .error (.tooManyDigits 4301) :=
    Number.Numeral.read_ones (by decide)
  refine ⟨?_, ⟨_, (Derives.comparison rfl rfl rfl).chain_of_factor .or⟩,
    (Ends.unreadable rfl rfl rfl hlong).resume_eq⟩
  intro token htoken hkind
  rcases List.mem_cons.mp htoken with rfl | htoken
  · cases hkind
  rcases List.mem_cons.mp htoken with rfl | htoken
  · cases hkind
  rw [List.mem_singleton.mp htoken]
  exact hnumeric

end Eligibility.Parser

import Eligibility.Proofs.Number.Conversion
import Eligibility.Proofs.Rule.Grammar

/-!
# Step by step

The parser as a machine: between two tokens it stands in a `State`, where a factor is due or one
has been read, with the groups that are still open and the chain at hand.

* `Moves` says what one step can do, one constructor for each, with the tokens that it takes;
* `Ends` says where no step is left, and what the parser returns there;
* `Reaches` is any number of steps.

`parse_eq_iff` is the bridge to the parser itself: it returns a result exactly when it gets from
the start to an end with this result. Whatever every step keeps therefore holds at the end, and
facts about outcomes are shown by an induction over the steps and a look at the ends.
-/

namespace Eligibility.Parser

variable {token : Token} {tokens : List Token}

/-! ## Comparisons -/

/-- Only the tokens of a literal are read as one, and a number only if its text is read. -/
theorem isLiteral_of_literal? {l : Literal} (h : literal? token = .ok l) :
    token.kind.isLiteral = true ∧ token.Converts ∧ l = token.literal := by
  unfold literal? at h
  unfold Token.literal
  cases hkind : token.kind with
  | number =>
      rw [hkind] at h
      cases hn : Number.read token.lexeme with
      | error e => simp [hn] at h
      | ok n =>
          have hdenoted := (Number.read_eq_ok_iff.mp hn).2
          refine ⟨rfl, fun _ => ⟨n, hn⟩, ?_⟩
          simpa [hn, hdenoted, eq_comm] using h
  | _ => simp_all [TokenKind.isLiteral, Token.Converts]

/-- A token of a literal is read as that literal if its text is read in case it is a number. -/
theorem literal?_of_isLiteral (hconverts : token.Converts) (h : token.kind.isLiteral = true) :
    literal? token = .ok token.literal := by
  unfold literal? Token.literal
  cases hkind : token.kind with
  | number =>
      obtain ⟨n, hn⟩ := hconverts hkind
      simp [hn, (Number.read_eq_ok_iff.mp hn).2]
  | _ => simp_all [TokenKind.isLiteral]

/-- What three tokens have to be in order to make up a comparison. -/
theorem kinds_of_comparison? {name sign value : Token} {c : Comparison}
    (h : comparison? name sign value = .ok c) :
    name.kind = .name ∧ sign.kind = .comparison ∧ value.kind.isLiteral = true ∧
      value.Converts ∧ c = Token.comparison name sign value := by
  unfold comparison? at h
  split at h
  · exact absurd h (by simp)
  · split at h
    · exact absurd h (by simp)
    · rename_i hname hsign
      cases hl : literal? value with
      | error e => simp [hl, Except.map] at h
      | ok l =>
          obtain ⟨hvalue, hconverts, rfl⟩ := isLiteral_of_literal? hl
          simp only [hl, Except.map, Except.ok.injEq] at h
          exact ⟨Classical.not_not.mp hname, Classical.not_not.mp hsign, hvalue, hconverts, h.symm⟩

theorem comparison?_of_kinds {name sign value : Token} (hconverts : value.Converts)
    (hname : name.kind = .name) (hsign : sign.kind = .comparison)
    (hvalue : value.kind.isLiteral = true) :
    comparison? name sign value = .ok (Token.comparison name sign value) := by
  simp [comparison?, hname, hsign, literal?_of_isLiteral hconverts hvalue, Except.map,
    Token.comparison]

/-! ## Chains -/

/-- The chain that may stand before a phrase. -/
def Fits : Phrase → Chain → Prop
  | .factor, _ => True
  | .chain .and, chain => chain.conjunction = none
  | .chain .or, chain => chain = .empty

theorem Fits.part {op : Connective} {chain : Chain} (h : Fits (.chain op) chain) :
    Fits (.part op) chain := by
  cases op with
  | and => trivial
  | or =>
      obtain rfl : chain = .empty := h
      rfl

/-! ## Equations -/

section Equations

variable {room : Nat} {open_ : List Group} {chain : Chain} {f : Formula}

theorem factor_opening (h : token.kind = .opening) :
    factor (room + 1) open_ chain (token :: tokens) =
      factor room (⟨token.position, chain⟩ :: open_) .empty tokens := by
  rw [factor.eq_def]
  simp [h]

theorem factor_comparison {name sign value : Token} (hconverts : value.Converts)
    (hname : name.kind = .name) (hsign : sign.kind = .comparison)
    (hvalue : value.kind.isLiteral = true) :
    factor room open_ chain (name :: sign :: value :: tokens) =
      after room open_ chain (.atom (Token.comparison name sign value)) tokens := by
  rw [factor.eq_def]
  simp [hname, comparison?_of_kinds hconverts hname hsign hvalue]

theorem after_and (h : token.kind = .connective .and) :
    after room open_ chain f (token :: tokens) =
      factor room open_ ⟨chain.disjunction, some (chain.term f)⟩ tokens := by
  rw [after.eq_def]
  simp [h]

theorem after_or (h : token.kind = .connective .or) :
    after room open_ chain f (token :: tokens) =
      factor room open_ ⟨some (chain.expression f), none⟩ tokens := by
  rw [after.eq_def]
  simp [h]

theorem after_closing (h : token.kind = .closing) (group : Group) :
    after room (group :: open_) chain f (token :: tokens) =
      after (room + 1) open_ group.outer (chain.expression f) tokens := by
  rw [after.eq_def]
  simp [h]

end Equations

/-! ## States -/

/-- Where the parser stands between two tokens. -/
inductive State where
  /-- A factor is due. -/
  | due (room : Nat) (open_ : List Group) (chain : Chain)
  /-- A factor has been read. -/
  | past (room : Nat) (open_ : List Group) (chain : Chain) (f : Formula)

/-- The number of groups that may still be opened. -/
def State.room : State → Nat
  | .due room .. | .past room .. => room

/-- The groups that are open, the innermost first. -/
def State.groups : State → List Group
  | .due _ open_ _ | .past _ open_ _ _ => open_

/-- What the parser returns from here on. -/
def State.resume : State → List Token → Except RuleTextError Formula
  | .due room open_ chain, tokens => factor room open_ chain tokens
  | .past room open_ chain f, tokens => after room open_ chain f tokens

variable {s s' : State} {limit : Nat}

/-- One step of the parser, with the tokens that it takes. -/
inductive Moves : State → List Token → State → Prop
  | opening {room : Nat} {open_ : List Group} {chain : Chain} {token : Token}
      (hopening : token.kind = .opening) :
      Moves (.due (room + 1) open_ chain) [token]
        (.due room (⟨token.position, chain⟩ :: open_) .empty)
  | comparison {room : Nat} {open_ : List Group} {chain : Chain} {name sign value : Token}
      {c : Comparison} (hc : comparison? name sign value = .ok c) :
      Moves (.due room open_ chain) [name, sign, value] (.past room open_ chain (.atom c))
  | and {room : Nat} {open_ : List Group} {chain : Chain} {f : Formula} {token : Token}
      (hand : token.kind = .connective .and) :
      Moves (.past room open_ chain f) [token]
        (.due room open_ ⟨chain.disjunction, some (chain.term f)⟩)
  | or {room : Nat} {open_ : List Group} {chain : Chain} {f : Formula} {token : Token}
      (hor : token.kind = .connective .or) :
      Moves (.past room open_ chain f) [token] (.due room open_ ⟨some (chain.expression f), none⟩)
  | closing {room : Nat} {group : Group} {outer : List Group} {chain : Chain} {f : Formula}
      {token : Token} (hclosing : token.kind = .closing) :
      Moves (.past room (group :: outer) chain f) [token]
        (.past (room + 1) outer group.outer (chain.expression f))

/-- Where there is no further step, and what the parser returns there. -/
inductive Ends : State → List Token → Except RuleTextError Formula → Prop
  | formula {room : Nat} {chain : Chain} {f : Formula} :
      Ends (.past room [] chain f) [] (.ok (chain.expression f))
  | nothingLeft {room : Nat} {open_ : List Group} {chain : Chain} :
      Ends (.due room open_ chain) [] (.error (.syntaxError ⟨.incompleteComparison, none⟩))
  | tooDeep {open_ : List Group} {chain : Chain} {token : Token} {tokens : List Token}
      (hopening : token.kind = .opening) :
      Ends (.due 0 open_ chain) (token :: tokens)
        (.error (.syntaxError ⟨.tooDeep, some token.position⟩))
  | tooFew {room : Nat} {open_ : List Group} {chain : Chain} {token : Token} {tokens : List Token}
      (hopening : token.kind ≠ .opening) (hfew : tokens.length < 2) :
      Ends (.due room open_ chain) (token :: tokens)
        (.error (.syntaxError ⟨.incompleteComparison, some token.position⟩))
  | expectedName {room : Nat} {open_ : List Group} {chain : Chain} {name sign value : Token}
      {tokens : List Token} (hopening : name.kind ≠ .opening) (hname : name.kind ≠ .name) :
      Ends (.due room open_ chain) (name :: sign :: value :: tokens)
        (.error (.syntaxError ⟨.expectedName name.lexeme, some name.position⟩))
  | expectedOperator {room : Nat} {open_ : List Group} {chain : Chain} {name sign value : Token}
      {tokens : List Token} (hname : name.kind = .name) (hsign : sign.kind ≠ .comparison) :
      Ends (.due room open_ chain) (name :: sign :: value :: tokens)
        (.error (.syntaxError ⟨.expectedOperator sign.lexeme, some sign.position⟩))
  | expectedLiteral {room : Nat} {open_ : List Group} {chain : Chain} {name sign value : Token}
      {tokens : List Token} (hname : name.kind = .name) (hsign : sign.kind = .comparison)
      (hvalue : value.kind.isLiteral = false) :
      Ends (.due room open_ chain) (name :: sign :: value :: tokens)
        (.error (.syntaxError ⟨.expectedLiteral value.lexeme, some value.position⟩))
  | unreadable {room : Nat} {open_ : List Group} {chain : Chain} {name sign value : Token}
      {tokens : List Token} (hname : name.kind = .name) (hsign : sign.kind = .comparison)
      (hvalue : value.kind = .number) {e : Number.ConversionError}
      (hnumber : Number.read value.lexeme = .error e) :
      Ends (.due room open_ chain) (name :: sign :: value :: tokens) (.error (.number e))
  | unclosedAtEnd {room : Nat} {group : Group} {outer : List Group} {chain : Chain} {f : Formula} :
      Ends (.past room (group :: outer) chain f) []
        (.error (.syntaxError ⟨.unclosedGroup, some group.position⟩))
  | unclosed {room : Nat} {group : Group} {outer : List Group} {chain : Chain} {f : Formula}
      {token : Token} {tokens : List Token} (hop : ∀ op, token.kind ≠ .connective op)
      (hclosing : token.kind ≠ .closing) :
      Ends (.past room (group :: outer) chain f) (token :: tokens)
        (.error (.syntaxError ⟨.unclosedGroup, some token.position⟩))
  | trailing {room : Nat} {chain : Chain} {f : Formula} {token : Token} {tokens : List Token}
      (hop : ∀ op, token.kind ≠ .connective op) :
      Ends (.past room [] chain f) (token :: tokens)
        (.error (.syntaxError ⟨.trailingTokens, some token.position⟩))

/-- A step takes its tokens and leaves the rest to the state that it leads to. -/
theorem Moves.resume_append {more : List Token} (h : Moves s more s') (rest : List Token) :
    s.resume (more ++ rest) = s'.resume rest := by
  cases h with
  | opening hopening => exact factor_opening hopening
  | @comparison _ _ _ name _ _ _ hc =>
      have hname := (kinds_of_comparison? hc).1
      show factor _ _ _ (name :: _) = _
      rw [factor.eq_def]
      simp [hname, hc, State.resume]
  | and hand => exact after_and hand
  | or hor => exact after_or hor
  | closing hclosing => exact after_closing hclosing _

/-- A step takes a number only as the literal that it is read as. -/
theorem Moves.converts {more : List Token} (h : Moves s more s') :
    ∀ token ∈ more, token.Converts := by
  cases h with
  | comparison hc =>
      obtain ⟨hname, hsign, -, hconverts, -⟩ := kinds_of_comparison? hc
      simp [Token.converts_of_ne, hname, hsign, hconverts]
  | _ => simp_all [Token.converts_of_ne]

/-- At an end the parser returns what the end says. -/
theorem Ends.resume_eq {result : Except RuleTextError Formula} (h : Ends s tokens result) :
    s.resume tokens = result := by
  cases h with
  | formula => simp only [State.resume, after.eq_def]
  | nothingLeft => simp only [State.resume, factor.eq_def]
  | tooDeep hopening =>
      rw [State.resume, factor.eq_def]
      simp [hopening]
  | @tooFew _ _ _ _ tokens hopening hfew =>
      rw [State.resume, factor.eq_def]
      match tokens, hfew with
      | [], _ => simp [hopening]
      | [_], _ => simp [hopening]
  | expectedName hopening hname =>
      rw [State.resume, factor.eq_def]
      simp [hopening, comparison?, hname]
  | expectedOperator hname hsign =>
      rw [State.resume, factor.eq_def]
      simp [comparison?, hname, hsign]
  | @expectedLiteral _ _ _ _ _ value _ hname hsign hvalue =>
      rw [State.resume, factor.eq_def]
      cases hkind : value.kind <;>
        simp_all [comparison?, literal?, Except.map, TokenKind.isLiteral]
  | unreadable hname hsign hvalue hnumber =>
      rw [State.resume, factor.eq_def]
      simp [comparison?, hname, hsign, literal?, hvalue, hnumber, Except.map]
  | unclosedAtEnd => simp only [State.resume, after.eq_def]
  | @unclosed _ _ _ _ _ token _ hop hclosing =>
      rw [State.resume, after.eq_def]
      cases hkind : token.kind <;> simp_all
  | @trailing _ _ _ token _ hop =>
      rw [State.resume, after.eq_def]
      cases hkind : token.kind <;> simp_all

/-- Three tokens that make up no comparison are an end. -/
theorem ends_of_comparison?_error {room : Nat} {open_ : List Group} {chain : Chain}
    {name sign value : Token} {e : RuleTextError} (hopening : name.kind ≠ .opening)
    (he : comparison? name sign value = .error e) (rest : List Token) :
    Ends (.due room open_ chain) (name :: sign :: value :: rest) (.error e) := by
  unfold comparison? at he
  by_cases hname : name.kind = .name
  · by_cases hsign : sign.kind = .comparison
    · rw [if_neg (not_not_intro hname), if_neg (not_not_intro hsign), literal?] at he
      cases hkind : value.kind with
      | name => simp [hkind, Except.map] at he
      | quoted => simp [hkind, Except.map] at he
      | number =>
          cases hn : Number.read value.lexeme with
          | ok n => simp [hkind, hn, Except.map] at he
          | error cause =>
              obtain rfl : _ = e := by simpa [hkind, hn, Except.map] using he
              exact .unreadable hname hsign hkind hn
      | _ =>
          obtain rfl : _ = e := by simpa [hkind, Except.map] using he
          exact .expectedLiteral hname hsign (by rw [hkind]; rfl)
    · obtain rfl : _ = e := by simpa [hname, hsign] using he
      exact .expectedOperator hname hsign
  · obtain rfl : _ = e := by simpa [hname] using he
    exact .expectedName hopening hname

/-- There is always a step or an end. -/
theorem moves_or_ends (s : State) (tokens : List Token) :
    (∃ more rest s', tokens = more ++ rest ∧ more ≠ [] ∧ Moves s more s') ∨
      ∃ result, Ends s tokens result := by
  cases s with
  | due room open_ chain =>
      cases tokens with
      | nil => exact .inr ⟨_, .nothingLeft⟩
      | cons token tokens =>
          by_cases hopening : token.kind = .opening
          · cases room with
            | zero => exact .inr ⟨_, .tooDeep hopening⟩
            | succ room => exact .inl ⟨[token], tokens, _, rfl, by simp, .opening hopening⟩
          · match tokens with
            | sign :: value :: rest =>
                cases hc : comparison? token sign value with
                | ok c => exact .inl ⟨[token, sign, value], rest, _, rfl, by simp, .comparison hc⟩
                | error e => exact .inr ⟨_, ends_of_comparison?_error hopening hc rest⟩
            | [_] => exact .inr ⟨_, .tooFew hopening (by simp)⟩
            | [] => exact .inr ⟨_, .tooFew hopening (by simp)⟩
  | past room open_ chain f =>
      cases tokens with
      | nil =>
          cases open_ with
          | nil => exact .inr ⟨_, .formula⟩
          | cons group outer => exact .inr ⟨_, .unclosedAtEnd⟩
      | cons token tokens =>
          by_cases hand : token.kind = .connective .and
          · exact .inl ⟨[token], tokens, _, rfl, by simp, .and hand⟩
          by_cases hor : token.kind = .connective .or
          · exact .inl ⟨[token], tokens, _, rfl, by simp, .or hor⟩
          have hop : ∀ op, token.kind ≠ .connective op
            | .and => hand
            | .or => hor
          cases open_ with
          | nil => exact .inr ⟨_, .trailing hop⟩
          | cons group outer =>
              by_cases hclosing : token.kind = .closing
              · exact .inl ⟨[token], tokens, _, rfl, by simp, .closing hclosing⟩
              · exact .inr ⟨_, .unclosed hop hclosing⟩

/-! ## Runs -/

/-- The parser gets from a state to another one over these tokens. -/
inductive Reaches (s : State) : List Token → State → Prop
  | refl : Reaches s [] s
  | step {read more : List Token} {s' s'' : State} (hrun : Reaches s read s')
      (hmove : Moves s' more s'') : Reaches s (read ++ more) s''

theorem Reaches.resume_append {read : List Token} (h : Reaches s read s') (rest : List Token) :
    s.resume (read ++ rest) = s'.resume rest := by
  induction h generalizing rest with
  | refl => rfl
  | step _ hmove ih => rw [List.append_assoc, ih, hmove.resume_append]

/-- From every state that is reached the parser gets to an end. -/
theorem Reaches.exists_end {read : List Token} (h : Reaches s read s') (rest : List Token) :
    ∃ read' rest' s'', read ++ rest = read' ++ rest' ∧ Reaches s read' s'' ∧
      Ends s'' rest' (s'.resume rest) := by
  induction hlength : rest.length using Nat.strongRecOn generalizing rest read s' with
  | _ length ih =>
      rcases moves_or_ends s' rest with ⟨more, rest', s'', rfl, hne, hmove⟩ | ⟨result, hend⟩
      · -- a step leaves fewer tokens to read
        have hpos : 0 < more.length := List.length_pos_iff.mpr hne
        rw [List.length_append] at hlength
        obtain ⟨read', rest'', t, hsplit, hreach, hend⟩ :=
          ih rest'.length (by omega) (h.step hmove) rest' rfl
        rw [← hmove.resume_append] at hend
        exact ⟨read', rest'', t, by rw [← hsplit, List.append_assoc], hreach, hend⟩
      · exact ⟨read, rest, s', rfl, h, hend.resume_eq.symm ▸ hend⟩

/-- Before the first token. -/
def State.start (limit : Nat) : State := .due limit [] .empty

/-- What is open and what may still be opened make up the limit. -/
theorem Reaches.room_add {read : List Token} (h : Reaches (.start limit) read s) :
    s.room + s.groups.length = limit := by
  induction h with
  | refl => rfl
  | step _ hmove ih =>
      rw [← ih]
      cases hmove <;> simp [State.room, State.groups] <;> omega

/-- Every number that has been read on the way was one that is read. -/
theorem Reaches.converts {read : List Token} (h : Reaches s read s') :
    ∀ token ∈ read, token.Converts := by
  induction h with
  | refl => simp
  | step _ hmove ih =>
      intro token htoken
      rcases List.mem_append.mp htoken with htoken | htoken
      · exact ih token htoken
      · exact hmove.converts token htoken

/-- **A parse is a run.** The parser returns a result exactly when it gets, from the start, over
some of the tokens to an end with that result in front of the others. -/
theorem parse_eq_iff {result : Except RuleTextError Formula} :
    parse limit tokens = result ↔ ∃ read rest s, tokens = read ++ rest ∧
      Reaches (.start limit) read s ∧ Ends s rest result := by
  constructor
  · rintro rfl
    exact Reaches.refl.exists_end tokens
  · rintro ⟨read, rest, s, rfl, hreach, hend⟩
    exact (hreach.resume_append rest).trans hend.resume_eq

end Eligibility.Parser

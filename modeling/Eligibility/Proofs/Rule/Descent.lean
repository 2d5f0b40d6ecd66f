import Eligibility.Proofs.Rule.Steps
import Eligibility.Rule.Evaluation

/-!
# Recursive descent

The parser once more, this time as a recursive descent: one function for each phrase of the
grammar, over a cursor that holds the tokens left and the number of open groups. Nothing is taken
for granted here. A token is taken where none may be left, a number is read from a text that may
not be read, a join is made of what may be no formula, and a function calls itself with no bound, so
that a run may also go on for ever. `Abort` names what can end it without a formula: a refusal, and
whatever else can go wrong.

`run_parse` says that the descent ends, with the formula of the parser, with its refusal, or at the
number that the parser could not read either; nothing else that can go wrong does. The induction is
on the tokens left. What the descent keeps in its calls, the parser keeps on lists of its own; so
each function is compared with the parser from a state on, and agrees with it up to the state behind
its phrase (`Agrees`).
-/

namespace Eligibility

/-- What can end a computation without a result. -/
inductive Abort where
  /-- The text is no rule. -/
  | refused (e : SyntaxError)
  /-- A token is taken where none is left. -/
  | pastTheEnd
  /-- A text that is to be read as a number is not read. -/
  | number (e : Number.ConversionError)
  /-- A join is made of what is no formula, or by no connective. -/
  | noFormula (reason : InvalidFormula)
  /-- A field is taken that the record does not have. -/
  | noField (name : String)
  /-- An order is asked for between values that are not both numbers. -/
  | noOrder
  /-- A result is taken where none is left. -/
  | noResult

/-- What keeps a text from being read as a rule ends the reading. -/
def Abort.ofText : RuleTextError → Abort
  | .syntaxError e => .refused e
  | .number e => .number e

namespace Descent

/-- The tokens that are left, and the number of groups that are open. -/
structure Cursor where
  rest : List Token
  depth : Nat

/-- A computation that moves a cursor. It may fail, and it may not end. -/
abbrev Reader := ExceptT Abort (StateT Cursor Option)

/-- How a computation ends at a cursor, and where it leaves the cursor. -/
def run {α : Type} (m : Reader α) (cursor : Cursor) : Option (Except Abort α × Cursor) :=
  (ExceptT.run m).run cursor

/-! ## The functions -/

/-- The next token, if there is one. -/
def peek : Reader (Option Token) := return (← get).rest.head?

/-- The next token is of this kind. -/
def check (kind : TokenKind) : Reader Bool := return (← peek).any (·.kind == kind)

/-- Takes the next token. -/
def advance : Reader Token := do
  match (← get).rest with
  | [] => throw .pastTheEnd
  | token :: rest =>
      modify fun cursor => { cursor with rest }
      return token

/-- Refuses to go on because of a token, or else of the next one. -/
def refuse {α : Type} (fault : SyntaxFault) (token : Option Token) : Reader α := do
  throw (.refused ⟨fault, (token <|> (← peek)).map (·.position)⟩)

/-- The join of two formulas. -/
def join (op : Connective) (left right : Formula) : Reader Formula :=
  match Formula.join? (.text op.keyword) (.formula left) (.formula right) with
  | .ok f => return f
  | .error reason => throw (.noFormula reason)

/-- The literal of a token. -/
def literal (token : Token) : Reader Literal :=
  match token.kind with
  | .quoted => return .text (String.ofList (token.lexeme.toList.drop 1).dropLast)
  | .number =>
      match Number.read token.lexeme with
      | .ok n => return .number n
      | .error e => throw (.number e)
  | _ => return .text token.lexeme

/-- A comparison: at least three tokens have to be left for it. -/
def comparison : Reader Formula := do
  if (← get).rest.length ≤ 2 then refuse .incompleteComparison none
  let name ← advance
  if name.kind ≠ .name then refuse (.expectedName name.lexeme) name
  let sign ← advance
  if sign.kind ≠ .comparison then refuse (.expectedOperator sign.lexeme) sign
  let value ← advance
  if value.kind.isLiteral = false then refuse (.expectedLiteral value.lexeme) value
  return .atom ⟨name.lexeme, sign.lexeme, ← literal value⟩

/-- What is left to do in a group behind its expression. -/
def close (opening : Token) (f : Formula) : Reader Formula := do
  if !(← check .closing) then refuse .unclosedGroup ((← peek) <|> some opening)
  let _ ← advance
  modify fun cursor => { cursor with depth := cursor.depth - 1 }
  return f

end Descent

open Descent in
mutual

/-- A phrase. A chain is a part and its links; a factor is an expression in parentheses or a
comparison. -/
def Phrase.read (limit : Int) : Phrase → Reader Formula
  | .chain op => do op |>.link limit (← Phrase.part op |>.read limit)
  | .factor => do
      if ← check .opening then
        let opening ← advance
        modify fun cursor => { cursor with depth := cursor.depth + 1 }
        if limit < (← get).depth then refuse .tooDeep opening
        close opening (← Phrase.expression |>.read limit)
      else comparison
partial_fixpoint

/-- The links of a chain that begins with a formula, as long as its keyword comes. -/
def Connective.link (limit : Int) (op : Connective) (f : Formula) : Reader Formula := do
  if ← check (.connective op) then
    let _ ← advance
    let right ← Phrase.part op |>.read limit
    op |>.link limit (← join op f right)
  else return f
partial_fixpoint

end

namespace Descent

/-- A rule: an expression, and nothing behind it. -/
def parse (limit : Int) : Reader Formula := do
  let f ← Phrase.read limit .expression
  if (← get).rest ≠ [] then refuse .trailingTokens none
  return f

/-! ## Running the functions -/

section Running

variable {α β : Type} {m : Reader α} {k : α → Reader β} {cursor cursor' : Cursor} {token : Token}

@[simp] theorem run_pure (a : α) (cursor : Cursor) :
    run (pure a : Reader α) cursor = some (.ok a, cursor) := rfl

@[simp] theorem run_get_bind (k : Cursor → Reader β) (cursor : Cursor) :
    run (get >>= k) cursor = run (k cursor) cursor := rfl

@[simp] theorem run_modify_bind (f : Cursor → Cursor) (k : Unit → Reader β) (cursor : Cursor) :
    run ((modify f : Reader Unit) >>= k) cursor = run (k ()) (f cursor) := rfl

theorem run_bind_of_ok {a : α} (h : run m cursor = some (.ok a, cursor')) (k : α → Reader β) :
    run (m >>= k) cursor = run (k a) cursor' := by
  rw [run] at h
  rw [run, ExceptT.run_bind, StateT.run_bind, h]
  rfl

theorem run_bind_of_error {e : Abort} (h : run m cursor = some (.error e, cursor'))
    (k : α → Reader β) : run (m >>= k) cursor = some (.error e, cursor') := by
  rw [run] at h
  rw [run, ExceptT.run_bind, StateT.run_bind, h]
  rfl

theorem run_peek_bind (k : Option Token → Reader β) (cursor : Cursor) :
    run (peek >>= k) cursor = run (k cursor.rest.head?) cursor := rfl

theorem run_check_bind (kind : TokenKind) (k : Bool → Reader β) (cursor : Cursor) :
    run (check kind >>= k) cursor = run (k (cursor.rest.head?.any (·.kind == kind))) cursor := rfl

theorem run_advance_bind (token : Token) (rest : List Token) (depth : Nat) (k : Token → Reader β) :
    run (advance >>= k) ⟨token :: rest, depth⟩ = run (k token) ⟨rest, depth⟩ := rfl

theorem run_refuse_bind (fault : SyntaxFault) (token : Option Token) (k : α → Reader β)
    (cursor : Cursor) : run (refuse fault token >>= k) cursor =
      some (.error (.refused ⟨fault, (token <|> cursor.rest.head?).map (·.position)⟩), cursor) :=
  rfl

theorem join_eq_pure (op : Connective) (left right : Formula) :
    join op left right = pure (.join op left right) := by
  cases op <;> rfl

/-- The literal of a token is the one that the parser reads, or it is not there for the same
reason. -/
theorem run_literal_bind (h : token.kind.isLiteral = true) (k : Literal → Reader β)
    (cursor : Cursor) : run (literal token >>= k) cursor =
      match Parser.literal? token with
      | .ok l => run (k l) cursor
      | .error e => some (.error (.ofText e), cursor) := by
  unfold literal Parser.literal?
  cases hkind : token.kind with
  | number =>
      cases Number.read token.lexeme with
      | ok n => rfl
      | error e => rfl
  | name => rfl
  | quoted => rfl
  | _ => simp_all [TokenKind.isLiteral]

end Running

variable {limit : Int} {depth : Nat} {op : Connective} {f : Formula} {token : Token}
  {tokens : List Token}

theorem run_chain : run (Phrase.read limit (.chain op)) ⟨tokens, depth⟩ =
    run (Phrase.read limit (.part op) >>= Connective.link limit op) ⟨tokens, depth⟩ := by
  rw [Phrase.read]

theorem run_links_keyword (h : token.kind = .connective op) :
    run (Connective.link limit op f) ⟨token :: tokens, depth⟩ =
      run (do Connective.link limit op (.join op f (← Phrase.read limit (.part op))))
        ⟨tokens, depth⟩ := by
  rw [Connective.link, run_check_bind]
  simp [h, run_advance_bind, join_eq_pure]

theorem run_links_stop (h : ∀ token ∈ tokens.head?, token.kind ≠ .connective op) :
    run (Connective.link limit op f) ⟨tokens, depth⟩ = some (.ok f, ⟨tokens, depth⟩) := by
  rw [Connective.link, run_check_bind]
  cases tokens with
  | nil => simp
  | cons token tokens => simp [h token rfl]

theorem run_factor_tooDeep (hopening : token.kind = .opening) (hdepth : limit.toNat ≤ depth) :
    run (Phrase.read limit .factor) ⟨token :: tokens, depth⟩ =
      some (.error (.refused ⟨.tooDeep, some token.position⟩), ⟨tokens, depth + 1⟩) := by
  have hlimit : limit < (depth : Int) + 1 := by omega
  rw [Phrase.read, run_check_bind]
  simp [hopening, run_advance_bind, run_refuse_bind, hlimit]

theorem run_factor_comparison (hopening : ∀ token ∈ tokens.head?, token.kind ≠ .opening) :
    run (Phrase.read limit .factor) ⟨tokens, depth⟩ = run comparison ⟨tokens, depth⟩ := by
  rw [Phrase.read, run_check_bind]
  cases tokens with
  | nil => simp
  | cons token tokens => simp [hopening token rfl]

theorem run_factor_opening (hopening : token.kind = .opening) (hdepth : depth < limit.toNat) :
    run (Phrase.read limit .factor) ⟨token :: tokens, depth⟩ =
      run (Phrase.read limit .expression >>= close token) ⟨tokens, depth + 1⟩ := by
  have hlimit : ¬ limit < (depth : Int) + 1 := by omega
  -- the factor is unfolded, the expression on the other side is not
  conv => lhs; rw [Phrase.read, run_check_bind]
  simp [hopening, run_advance_bind, hlimit]

/-! ## Chains of the machine -/

open Eligibility.Parser (Group Chain Fits State Ends Moves)

/-- The next token does not carry the phrase on. -/
def Stops : Phrase → List Token → Prop
  | .factor, _ => True
  | .chain .and, tokens => ∀ token ∈ tokens.head?, token.kind ≠ .connective .and
  | .chain .or, tokens => ∀ token ∈ tokens.head?, ∀ op, token.kind ≠ .connective op

theorem Stops.chain (h : Stops (.part op) tokens)
    (hop : ∀ token ∈ tokens.head?, token.kind ≠ .connective op) : Stops (.chain op) tokens := by
  cases op with
  | and => exact hop
  | or =>
      intro token htoken op
      cases op with
      | and => exact h token htoken
      | or => exact hop token htoken

/-- Behind a factor only the expression that it ends counts, and for AND also the term. -/
theorem resume_congr {room : Nat} {open_ : List Group} {chain chain' : Chain} {f f' : Formula}
    (hexpression : chain.expression f = chain'.expression f')
    (hand : (∀ token ∈ tokens.head?, token.kind ≠ .connective .and) ∨
      chain.disjunction = chain'.disjunction ∧ chain.term f = chain'.term f') :
    (State.past room open_ chain f).resume tokens =
      (State.past room open_ chain' f').resume tokens := by
  simp only [State.resume]
  rw [Parser.after.eq_def, Parser.after.eq_def room open_ chain']
  cases tokens with
  | nil => cases open_ <;> simp [hexpression]
  | cons token tokens =>
      by_cases hkind : token.kind = .connective .and
      · obtain ⟨hdisjunction, hterm⟩ := hand.resolve_left fun h => h token rfl hkind
        simp [hkind, hdisjunction, hterm]
      · -- every other token has the expression completed first
        simp only [hexpression]
        split <;> simp_all

/-- The keyword of a chain makes a part due, and with the part the chain is longer by a link. -/
theorem exists_next (room : Nat) (open_ : List Group) {chain : Chain}
    (hchain : Fits (.chain op) chain) (h : token.kind = .connective op) (f : Formula) :
    ∃ next, Fits (.part op) next ∧
      (∀ rest, (State.past room open_ chain f).resume (token :: rest) =
        (State.due room open_ next).resume rest) ∧
      ∀ right rest, Stops (.part op) rest → (State.past room open_ next right).resume rest =
        (State.past room open_ chain (.join op f right)).resume rest := by
  cases op with
  | and =>
      obtain ⟨disjunction, conjunction⟩ := chain
      obtain rfl : conjunction = none := hchain
      refine ⟨⟨disjunction, some f⟩, trivial, (Moves.and h).resume_append, ?_⟩
      intro right rest _
      exact resume_congr (by cases disjunction <;> rfl) (.inr ⟨rfl, rfl⟩)
  | or =>
      obtain rfl : chain = .empty := hchain
      refine ⟨⟨some f, none⟩, rfl, (Moves.or h).resume_append, ?_⟩
      -- an AND behind the term on the right would still belong to it, but none is left
      intro right rest hrest
      exact resume_congr rfl (.inl hrest)

/-! ## The descent beside the machine -/

/-- A computation over a phrase agrees with what the machine returns: it fails with it, or it
leaves a formula and fewer than `bound` of the tokens, from where the machine goes on to it, with
as many groups open as before. -/
inductive Agrees (limit : Int) (p : Phrase) (depth : Nat) (open_ : List Group) (chain : Chain)
    (tokens : List Token) (bound : Nat) (result : Except RuleTextError Formula) :
    Option (Except Abort Formula × Cursor) → Prop
  | failed {e : RuleTextError} {cursor : Cursor} (hresult : result = .error e) :
      Agrees limit p depth open_ chain tokens bound result (some (.error (.ofText e), cursor))
  | formula {f : Formula} {rest : List Token} (hsuffix : rest <:+ tokens)
      (hlt : rest.length < bound) (hstops : Stops p rest)
      (hresult : result = (State.past (limit.toNat - depth) open_ chain f).resume rest) :
      Agrees limit p depth open_ chain tokens bound result (some (.ok f, ⟨rest, depth⟩))

variable {p p' : Phrase} {depth' bound bound' : Nat} {open_ open' : List Group}
  {chain chain' : Chain} {longer : List Token} {result : Except RuleTextError Formula}

theorem Agrees.bind {m : Reader Formula} {k : Formula → Reader Formula} {cursor : Cursor}
    (h : Agrees limit p depth open_ chain tokens bound result (run m cursor))
    (hk : ∀ f rest, rest <:+ tokens → rest.length < bound → Stops p rest →
      result = (State.past (limit.toNat - depth) open_ chain f).resume rest →
      Agrees limit p' depth' open' chain' longer bound' result (run (k f) ⟨rest, depth⟩)) :
    Agrees limit p' depth' open' chain' longer bound' result (run (m >>= k) cursor) := by
  generalize hrun : run m cursor = outcome at h
  cases h with
  | failed hresult =>
      rw [run_bind_of_error hrun]
      exact .failed hresult
  | formula hsuffix hlt hstops hresult =>
      rw [run_bind_of_ok hrun]
      exact hk _ _ hsuffix hlt hstops hresult

/-- An agreement on the end of a list is one on the list. -/
theorem Agrees.of_suffix {outcome : Option (Except Abort Formula × Cursor)}
    (h : Agrees limit p depth open_ chain tokens bound result outcome)
    (hsuffix : tokens <:+ longer) (hbound : bound ≤ bound') :
    Agrees limit p depth open_ chain longer bound' result outcome := by
  cases h with
  | failed hresult => exact .failed hresult
  | formula hrest hlt hstops hresult =>
      exact .formula (hrest.trans hsuffix) (Nat.lt_of_lt_of_le hlt hbound) hstops hresult

/-- The descent over a phrase agrees with the machine, wherever the phrase is due. -/
def PhraseAgrees (limit : Int) (tokens : List Token) (p : Phrase) : Prop :=
  ∀ depth open_ chain, depth ≤ limit.toNat → Fits p chain →
    Agrees limit p depth open_ chain tokens tokens.length
      ((State.due (limit.toNat - depth) open_ chain).resume tokens)
      (run (Phrase.read limit p) ⟨tokens, depth⟩)

/-- The descent over the links of a chain agrees with the machine, behind each part. -/
def LinksAgree (limit : Int) (tokens : List Token) : Prop :=
  ∀ op depth open_ chain f, depth ≤ limit.toNat → Fits (.chain op) chain → Stops (.part op) tokens →
    Agrees limit (.chain op) depth open_ chain tokens (tokens.length + 1)
      ((State.past (limit.toNat - depth) open_ chain f).resume tokens)
      (run (Connective.link limit op f) ⟨tokens, depth⟩)

/-- Both hold of everything shorter. -/
def AgreesBelow (limit : Int) (tokens : List Token) : Prop :=
  ∀ rest, rest <:+ tokens → rest.length < tokens.length →
    (∀ p, PhraseAgrees limit rest p) ∧ LinksAgree limit rest

/-! ### Comparisons -/

theorem agrees_comparison (hopening : ∀ token ∈ tokens.head?, token.kind ≠ .opening) :
    Agrees limit .factor depth open_ chain tokens tokens.length
      ((State.due (limit.toNat - depth) open_ chain).resume tokens)
      (run comparison ⟨tokens, depth⟩) := by
  match tokens with
  | [] => exact .failed Ends.nothingLeft.resume_eq
  | [name] => exact .failed (Ends.tooFew (hopening name rfl) (by simp)).resume_eq
  | [name, _] => exact .failed (Ends.tooFew (hopening name rfl) (by simp)).resume_eq
  | name :: sign :: value :: rest =>
      by_cases hname : name.kind = .name
      · by_cases hsign : sign.kind = .comparison
        · by_cases hvalue : value.kind.isLiteral = true
          · have hrun : run comparison ⟨name :: sign :: value :: rest, depth⟩ =
                run (do return .atom ⟨name.lexeme, sign.lexeme, ← literal value⟩)
                  ⟨rest, depth⟩ := by
              simp [comparison, run_advance_bind, hname, hsign, hvalue]
            rw [hrun, run_literal_bind hvalue]
            cases hc : Parser.comparison? name sign value with
            | ok c =>
                have hmove : Moves (.due (limit.toNat - depth) open_ chain) [name, sign, value] _ :=
                  .comparison hc
                obtain ⟨-, -, -, hconverts, rfl⟩ := Parser.kinds_of_comparison? hc
                rw [Parser.literal?_of_isLiteral hconverts hvalue]
                exact .formula ⟨[name, sign, value], rfl⟩ (by simp; omega) trivial
                  (hmove.resume_append rest)
            | error e =>
                have hliteral : Parser.literal? value = .error e := by
                  cases hl : Parser.literal? value with
                  | ok l => simp [Parser.comparison?, hname, hsign, hl, Except.map] at hc
                  | error e' => simpa [Parser.comparison?, hname, hsign, hl, Except.map] using hc
                rw [hliteral]
                exact .failed
                  (Parser.ends_of_comparison?_error (hopening name rfl) hc rest).resume_eq
          · have hrun : run comparison ⟨name :: sign :: value :: rest, depth⟩ =
                some (.error (.refused ⟨.expectedLiteral value.lexeme, some value.position⟩),
                  ⟨rest, depth⟩) := by
              simp [comparison, run_advance_bind, run_refuse_bind, hname, hsign, hvalue]
            rw [hrun]
            exact .failed (Ends.expectedLiteral hname hsign (by simpa using hvalue)).resume_eq
        · have hrun : run comparison ⟨name :: sign :: value :: rest, depth⟩ =
              some (.error (.refused ⟨.expectedOperator sign.lexeme, some sign.position⟩),
                ⟨value :: rest, depth⟩) := by
            simp [comparison, run_advance_bind, run_refuse_bind, hname, hsign]
          rw [hrun]
          exact .failed (Ends.expectedOperator hname hsign).resume_eq
      · have hrun : run comparison ⟨name :: sign :: value :: rest, depth⟩ =
            some (.error (.refused ⟨.expectedName name.lexeme, some name.position⟩),
              ⟨sign :: value :: rest, depth⟩) := by
          simp [comparison, run_advance_bind, run_refuse_bind, hname]
        rw [hrun]
        exact .failed (Ends.expectedName (hopening name rfl) hname).resume_eq

/-! ### Groups -/

/-- A list begins with a token of a kind, or it does not. -/
theorem exists_cons_of_not {kind : TokenKind} (h : ¬ ∀ token ∈ tokens.head?, token.kind ≠ kind) :
    ∃ token rest, tokens = token :: rest ∧ token.kind = kind := by
  cases tokens with
  | nil => simp at h
  | cons token rest => exact ⟨token, rest, rfl, by simpa using h⟩

/-- Behind the expression of a group, the group is closed. -/
theorem agrees_close {opening : Token} {room : Nat} (hroom : limit.toNat - depth = room + 1)
    (hstops : Stops .expression tokens) (f : Formula) :
    Agrees limit .factor depth open_ chain tokens tokens.length
      ((State.past room (⟨opening.position, chain⟩ :: open_) .empty f).resume tokens)
      (run (close opening f) ⟨tokens, depth + 1⟩) := by
  cases tokens with
  | nil => exact .failed Ends.unclosedAtEnd.resume_eq
  | cons token rest =>
      by_cases hclosing : token.kind = .closing
      · have hrun : run (close opening f) ⟨token :: rest, depth + 1⟩ =
            some (.ok f, ⟨rest, depth⟩) := by
          rw [close, run_check_bind]
          simp only [List.head?_cons, Option.any_some, hclosing, beq_self_eq_true, Bool.not_true,
            Bool.false_eq_true, if_false, run_advance_bind, run_modify_bind, run_pure]
          rfl
        rw [hrun]
        refine .formula (List.suffix_cons token rest) (by simp) trivial ?_
        rw [hroom]
        exact (Moves.closing hclosing).resume_append rest
      · have hrun : run (close opening f) ⟨token :: rest, depth + 1⟩ =
            some (.error (.refused ⟨.unclosedGroup, some token.position⟩),
              ⟨token :: rest, depth + 1⟩) := by
          simp [close, run_check_bind, run_peek_bind, run_refuse_bind, hclosing]
        rw [hrun]
        exact .failed (Ends.unclosed (hstops token rfl) hclosing).resume_eq

theorem factorAgrees (hbelow : AgreesBelow limit tokens) : PhraseAgrees limit tokens .factor := by
  intro depth open_ chain hdepth _
  by_cases hopening : ∀ token ∈ tokens.head?, token.kind ≠ .opening
  · rw [run_factor_comparison hopening]
    exact agrees_comparison hopening
  obtain ⟨token, rest, rfl, hkind⟩ := exists_cons_of_not hopening
  rcases Nat.lt_or_ge depth limit.toNat with hlt | hge
  · obtain ⟨room, hroom⟩ : ∃ room, limit.toNat - depth = room + 1 :=
      ⟨limit.toNat - depth - 1, by omega⟩
    have hinner : limit.toNat - (depth + 1) = room := by omega
    have hsuffix : rest <:+ token :: rest := List.suffix_cons token rest
    have hopen : (State.due (limit.toNat - depth) open_ chain).resume (token :: rest) =
        (State.due room (⟨token.position, chain⟩ :: open_) .empty).resume rest := by
      rw [hroom]
      exact (Moves.opening hkind).resume_append rest
    rw [run_factor_opening hkind hlt, hopen, ← hinner]
    refine ((hbelow rest hsuffix (by simp)).1 .expression _ _ _ hlt rfl).bind ?_
    -- the expression is behind, and the parenthesis is to come
    intro f rest' hsuffix' hshorter hstops hresume
    rw [hresume, hinner]
    exact (agrees_close hroom hstops f).of_suffix (hsuffix'.trans hsuffix) (by simp; omega)
  · have hroom : limit.toNat - depth = 0 := by omega
    rw [run_factor_tooDeep hkind hge, hroom]
    exact .failed (Ends.tooDeep hkind).resume_eq

/-! ### Chains -/

theorem linksAgree (hbelow : AgreesBelow limit tokens) : LinksAgree limit tokens := by
  intro op depth open_ chain f hdepth hchain hstops
  by_cases hop : ∀ token ∈ tokens.head?, token.kind ≠ .connective op
  · rw [run_links_stop hop]
    exact .formula (List.suffix_refl _) (Nat.lt_succ_self _) (hstops.chain hop) rfl
  obtain ⟨token, rest, rfl, hkind⟩ := exists_cons_of_not hop
  obtain ⟨next, hnext, hdue, hpast⟩ := exists_next (limit.toNat - depth) open_ hchain hkind f
  have hsuffix : rest <:+ token :: rest := List.suffix_cons token rest
  rw [run_links_keyword hkind, hdue]
  refine ((hbelow rest hsuffix (by simp)).1 _ depth open_ next hdepth hnext).bind ?_
  -- the part is behind, and the chain is longer by a link
  intro right rest' hsuffix' hlt hstops' hresume
  rw [hresume, hpast _ _ hstops']
  have hlonger := hsuffix'.trans hsuffix
  have hlinks := (hbelow rest' hlonger (by simp; omega)).2 op depth open_ chain
    (.join op f right) hdepth hchain hstops'
  exact hlinks.of_suffix hlonger (by simp; omega)

theorem chainAgrees (hbelow : AgreesBelow limit tokens)
    (hpart : PhraseAgrees limit tokens (.part op)) : PhraseAgrees limit tokens (.chain op) := by
  intro depth open_ chain hdepth hchain
  rw [run_chain]
  refine (hpart depth open_ chain hdepth hchain.part).bind ?_
  intro f rest hsuffix hlt hstops hresume
  rw [hresume]
  have hlinks := (hbelow rest hsuffix hlt).2 op depth open_ chain f hdepth hchain hstops
  exact hlinks.of_suffix hsuffix hlt

/-- **Over every phrase the descent agrees with the machine.** -/
theorem phraseAgrees (limit : Int) (tokens : List Token) :
    (∀ p, PhraseAgrees limit tokens p) ∧ LinksAgree limit tokens := by
  induction hlength : tokens.length using Nat.strongRecOn generalizing tokens with
  | ind length ih =>
      have hbelow : AgreesBelow limit tokens := fun rest _ hlt =>
        ih rest.length (hlength ▸ hlt) rest rfl
      have hfactor := factorAgrees hbelow
      have hterm : PhraseAgrees limit tokens .term := chainAgrees hbelow hfactor
      have hexpression : PhraseAgrees limit tokens .expression := chainAgrees hbelow hterm
      refine ⟨fun p => ?_, linksAgree hbelow⟩
      match p with
      | .factor => exact hfactor
      | .chain .and => exact hterm
      | .chain .or => exact hexpression

/-- **The descent ends, and it fails in no other way than the parser.** It gives the formula of the
parser, its refusal, or what keeps it from reading a number. -/
theorem run_parse (limit : Int) (tokens : List Token) :
    ∃ cursor, run (parse limit) ⟨tokens, 0⟩ =
      some ((Parser.parse limit.toNat tokens).mapError .ofText, cursor) := by
  have hexpression :=
    (phraseAgrees limit tokens).1 .expression 0 [] .empty (Nat.zero_le limit.toNat) rfl
  generalize hrun : run (Phrase.read limit .expression) ⟨tokens, 0⟩ = outcome at hexpression
  change Agrees limit .expression 0 [] .empty tokens _ (Parser.parse limit.toNat tokens) _
    at hexpression
  rw [parse]
  cases hexpression with
  | failed hresult => exact ⟨_, by rw [run_bind_of_error hrun, hresult]; rfl⟩
  | @formula f rest _ _ hstops hresult =>
      rw [run_bind_of_ok hrun, hresult]
      cases rest with
      | nil => exact ⟨_, by rw [Ends.formula.resume_eq]; rfl⟩
      | cons token rest => exact ⟨_, by rw [(Ends.trailing (hstops token rfl)).resume_eq]; rfl⟩

end Descent

end Eligibility

import Eligibility.Proofs.Rule.Coverage
import Eligibility.Proofs.Rule.RoundTrip

/-!
# Where a refusal points

The parser reads on only as long as what it has read can still become a rule. `Viable` says of a
list of tokens that some tokens behind it make it one, under the same limit.

* `Reaches.viable` — whatever has been read is viable: a comparison if one is due, and a closing
  parenthesis for every open group, complete it;
* `Reaches.exists_opening` — so is what stands before the parenthesis of an open group;
* `exists_viable_of_error` — hence the token that a refusal points to has something viable before
  it, and a refusal that points nowhere comes behind the last token.
-/

namespace Eligibility.Parser

open Token

variable {limit room : Nat} {s : State} {tokens read more : List Token} {open_ : List Group}
  {chain : Chain} {f : Formula}

/-- Some tokens behind these, each of which looks like its kind, complete them to a rule under the
limit. -/
def Viable (limit : Nat) (tokens : List Token) : Prop :=
  ∃ more f, (∀ token ∈ more, Lexical token.kind token.lexeme.toList) ∧
    parse limit (tokens ++ more) = .ok f

/-! ## Completing what has been read -/

theorem viable_of_derives (hconverts : ∀ token ∈ tokens, token.Converts)
    (hmore : ∀ token ∈ more, Lexical token.kind token.lexeme.toList ∧ token.kind ≠ .number)
    (h : Derives .expression limit (tokens ++ more) f) : Viable limit tokens := by
  refine ⟨more, f, fun token htoken => (hmore token htoken).1, parse_of_derives ?_ h⟩
  intro token htoken
  rcases List.mem_append.mp htoken with htoken | htoken
  · exact hconverts token htoken
  · exact converts_of_ne (hmore token htoken).2

/-- So many closing parentheses. -/
def closings (count : Nat) : List Token := List.replicate count ⟨.closing, ")", 0⟩

theorem lexical_of_mem_closings {count : Nat} {token : Token} (h : token ∈ closings count) :
    Lexical token.kind token.lexeme.toList ∧ token.kind ≠ .number := by
  rw [(List.mem_replicate.mp h).2]
  exact ⟨rfl, by decide⟩

/-- A name, for where one is due. -/
def aName : Token := ⟨.name, "a", 0⟩

/-- A comparison sign, for where one is due. -/
def aSign : Token := ⟨.comparison, "=", 0⟩

/-- A comparison, for where one is due. -/
def sample : List Token := [aName, aSign, aName]

theorem lexical_of_mem_sample {token : Token} (h : token ∈ sample) :
    Lexical token.kind token.lexeme.toList ∧ token.kind ≠ .number := by
  have hname : IsName "a".toList := ⟨by simp, List.all_eq_true.mp (by decide), by decide +kernel⟩
  have hsign : Lexical .comparison "=".toList := by
    show String.ofList _ ∈ signs
    decide
  simp only [sample, List.mem_cons, List.not_mem_nil, or_false] at h
  rcases h with rfl | rfl | rfl
  · exact ⟨hname, by decide⟩
  · exact ⟨hsign, by decide⟩
  · exact ⟨hname, by decide⟩

/-- With the next factor and a parenthesis for each open group, what has been read is a rule. -/
theorem Before.exists_derives (h : Before room tokens open_ chain)
    (hfactor : Derives .factor room more f) :
    ∃ g, Derives .expression (room + open_.length)
      (tokens ++ (more ++ closings open_.length)) g := by
  induction open_ generalizing room tokens chain more f with
  | nil => exact ⟨_, by simpa [closings] using h.expression hfactor⟩
  | cons group outer ih =>
      obtain ⟨front, opening, back, rfl, hopening, houter, hchain⟩ := h
      -- the innermost group is closed, and is then a factor of the one around it
      have hgroup : Derives .factor (room + 1) (opening :: (back ++ more ++ closings 1)) _ :=
        .group hopening (hchain.expression hfactor) rfl
      obtain ⟨g, hg⟩ := ih houter hgroup
      refine ⟨g, ?_⟩
      rw [List.length_cons, show room + (outer.length + 1) = room + 1 + outer.length by omega]
      simpa [closings, List.replicate_succ] using hg

/-- Where a factor is due, any part of a comparison that is read on stays viable. -/
theorem Reaches.viable_append (h : Reaches (.start limit) read (.due room open_ chain))
    {front back : List Token} {name sign value : Token} (hname : name.kind = .name)
    (hsign : sign.kind = .comparison) (hvalue : value.kind.isLiteral = true)
    (hsplit : [name, sign, value] = front ++ back)
    (hfront : ∀ token ∈ front, token.Converts) (hback : ∀ token ∈ back, token ∈ sample) :
    Viable limit (read ++ front) := by
  have hconverts : ∀ token ∈ read ++ front, token.Converts := by
    intro token htoken
    rcases List.mem_append.mp htoken with htoken | htoken
    · exact h.converts token htoken
    · exact hfront token htoken
  obtain ⟨g, hg⟩ := Before.exists_derives h.stands (.comparison hname hsign hvalue)
  have hroom := h.room_add
  rw [State.room, State.groups] at hroom
  rw [hroom, hsplit, List.append_assoc, ← List.append_assoc] at hg
  refine viable_of_derives hconverts (fun token htoken => ?_) hg
  rcases List.mem_append.mp htoken with htoken | htoken
  · exact lexical_of_mem_sample (hback token htoken)
  · exact lexical_of_mem_closings htoken

/-- **Whatever has been read is viable.** -/
theorem Reaches.viable (h : Reaches (.start limit) read s) : Viable limit read := by
  cases s with
  | due room open_ chain =>
      rw [← List.append_nil read]
      exact h.viable_append rfl rfl rfl (rfl : sample = [] ++ sample) (by simp) fun _ => id
  | past room open_ chain f =>
      obtain ⟨front, more, rfl, hbefore, hfactor⟩ := h.stands
      obtain ⟨g, hg⟩ := Before.exists_derives hbefore hfactor
      have hroom := h.room_add
      rw [State.room, State.groups] at hroom
      rw [hroom, ← List.append_assoc] at hg
      exact viable_of_derives h.converts (fun _ => lexical_of_mem_closings) hg

/-- What stands before the parenthesis of an open group is viable as well. -/
theorem Reaches.exists_opening (h : Reaches (.start limit) read s) :
    ∀ group ∈ s.groups, ∃ front opening back, read = front ++ opening :: back ∧
      opening.position = group.position ∧ Viable limit front := by
  induction h with
  | refl => simp [State.start, State.groups]
  | @step read more s s' hreach hmove ih =>
      -- the groups that were open before stay where they are
      have hkept : ∀ group ∈ s.groups, ∃ front opening back,
          read ++ more = front ++ opening :: back ∧ opening.position = group.position ∧
            Viable limit front := by
        intro group hgroup
        obtain ⟨front, opening, back, rfl, hposition, hviable⟩ := ih group hgroup
        exact ⟨front, opening, back ++ more, by simp, hposition, hviable⟩
      cases hmove with
      | @opening room open_ chain token hopening =>
          intro group hgroup
          rcases List.mem_cons.mp hgroup with rfl | hgroup
          · exact ⟨read, token, [], rfl, rfl, hreach.viable⟩
          · exact hkept group hgroup
      | closing => exact fun group hgroup => hkept group (List.mem_cons_of_mem _ hgroup)
      | comparison => exact hkept
      | and => exact hkept
      | or => exact hkept

/-! ## Main result -/

/-- A refusal points to a token with something viable before it, or it comes behind the last
token, and all of them together are viable. -/
theorem exists_viable_of_error {e : SyntaxError}
    (h : parse limit tokens = .error (.syntaxError e)) :
    (∃ front token back, tokens = front ++ token :: back ∧ e.position = some token.position ∧
      Viable limit front) ∨
    e = ⟨.incompleteComparison, none⟩ ∧ (∃ s, Reaches (.start limit) tokens s) ∧
      Viable limit tokens := by
  obtain ⟨read, rest, s, rfl, hreach, hend⟩ := parse_eq_iff.mp h
  have hviable := hreach.viable
  cases hend with
  | nothingLeft =>
      rw [List.append_nil]
      exact .inr ⟨rfl, ⟨_, hreach⟩, hviable⟩
  | tooDeep => exact .inl ⟨read, _, _, rfl, rfl, hviable⟩
  | tooFew => exact .inl ⟨read, _, _, rfl, rfl, hviable⟩
  | expectedName => exact .inl ⟨read, _, _, rfl, rfl, hviable⟩
  | unclosed => exact .inl ⟨read, _, _, rfl, rfl, hviable⟩
  | trailing => exact .inl ⟨read, _, _, rfl, rfl, hviable⟩
  | @expectedOperator _ _ _ name sign value rest hname hsign =>
      -- the name was read on the way to the sign
      refine .inl ⟨read ++ [name], sign, value :: rest, by simp, rfl, ?_⟩
      exact hreach.viable_append hname (rfl : aSign.kind = .comparison)
        (rfl : aName.kind.isLiteral = true) (rfl : _ = [name] ++ [aSign, aName])
        (by simp [converts_of_ne, hname]) fun token htoken => List.mem_cons_of_mem _ htoken
  | @expectedLiteral _ _ _ name sign value rest hname hsign hvalue =>
      refine .inl ⟨read ++ [name, sign], value, rest, by simp, rfl, ?_⟩
      exact hreach.viable_append hname hsign (rfl : aName.kind.isLiteral = true)
        (rfl : _ = [name, sign] ++ [aName]) (by simp [converts_of_ne, hname, hsign])
        fun token htoken => by simp_all [sample]
  | @unclosedAtEnd _ group =>
      rw [List.append_nil]
      obtain ⟨front, opening, back, hsplit, hposition, hfront⟩ :=
        hreach.exists_opening group List.mem_cons_self
      exact .inl ⟨front, opening, back, hsplit, congrArg some hposition.symm, hfront⟩

/-- What comes before a token in an ordered list are the tokens at smaller positions. -/
theorem filter_position_lt {front back : List Token} {token : Token}
    (h : (front ++ token :: back).Pairwise EndsBefore) :
    (front ++ token :: back).filter (·.position < token.position) = front := by
  rw [List.pairwise_append, List.pairwise_cons] at h
  obtain ⟨-, ⟨hback, -⟩, hfront⟩ := h
  rw [List.filter_append, List.filter_eq_self.mpr, List.filter_eq_nil_iff.mpr, List.append_nil]
  · intro other hother
    rcases List.mem_cons.mp hother with rfl | hother
    · simp
    · have := (hback other hother).1
      simp only [decide_eq_true_eq]
      omega
  · intro other hother
    simpa using (hfront other hother token List.mem_cons_self).1

end Eligibility.Parser

namespace Eligibility.Formula

open Eligibility.Parser Token

/-- **No refusal points past the first token that is wrong.** When a text is refused, then

* the position is where one of its tokens begins, and the tokens before this one can be completed to
  a rule under the same limit; or
* there is no position, all tokens have been read while something was still due, and all of them
  together can be so completed. -/
theorem viable_of_ofText?_error {text : String} {maxDepth : Nat} {e : SyntaxError}
    (h : ofText? text maxDepth = .error (.syntaxError e)) :
    (∃ token ∈ scan text, e.position = some token.position ∧
      Viable maxDepth ((scan text).filter (·.position < token.position))) ∨
    e.position = none ∧ e.message = "Incomplete operand" ∧
      (∃ s, Reaches (.start maxDepth) (scan text) s) ∧ Viable maxDepth (scan text) := by
  rcases exists_viable_of_error h with ⟨front, token, back, hscan, hposition, hviable⟩ |
    ⟨rfl, hreach, hviable⟩
  · have hordered : (scan text).Pairwise EndsBefore := pairwise_scanFrom 0 text.toList
    rw [hscan] at hordered ⊢
    refine .inl ⟨token, by simp, hposition, ?_⟩
    rw [filter_position_lt hordered]
    exact hviable
  · exact .inr ⟨rfl, rfl, hreach, hviable⟩

/-- A group that is still open at the end is blamed on its parenthesis, and a comparison that is
still due on nothing. -/
theorem viable_of_ofText?_error_of_unclosed :
    (ofText? "a = 1 OR (b = 2" 64 = .error (.syntaxError ⟨.unclosedGroup, some 9⟩) ∧
      Viable 64 ((scan "a = 1 OR (b = 2").filter (·.position < 9))) ∧
    ofText? "(a = 1 AND" 64 = .error (.syntaxError ⟨.incompleteComparison, none⟩) ∧
      Viable 64 (scan "(a = 1 AND") := by
  have hscan : scan "a = 1 OR (b = 2" =
      [⟨.name, "a", 0⟩, ⟨.comparison, "=", 2⟩, ⟨.number, "1", 4⟩, ⟨.connective .or, "OR", 6⟩,
        ⟨.opening, "(", 9⟩, ⟨.name, "b", 10⟩, ⟨.comparison, "=", 12⟩, ⟨.number, "2", 14⟩] := by
    decide +kernel
  have hscan' : scan "(a = 1 AND" =
      [⟨.opening, "(", 0⟩, ⟨.name, "a", 1⟩, ⟨.comparison, "=", 3⟩, ⟨.number, "1", 5⟩,
        ⟨.connective .and, "AND", 7⟩] := by decide +kernel
  have hunclosed : ofText? "a = 1 OR (b = 2" 64 =
      .error (.syntaxError ⟨.unclosedGroup, some 9⟩) := by
    rw [ofText?, hscan]
    rfl
  have hdue : ofText? "(a = 1 AND" 64 = .error (.syntaxError ⟨.incompleteComparison, none⟩) := by
    rw [ofText?, hscan']
    rfl
  refine ⟨⟨hunclosed, ?_⟩, hdue, ?_⟩
  · rcases viable_of_ofText?_error hunclosed with ⟨token, -, hposition, hviable⟩ | ⟨hnone, -⟩
    · rwa [← Option.some.inj hposition] at hviable
    · exact absurd hnone (by simp)
  · rcases viable_of_ofText?_error hdue with ⟨token, -, hposition, -⟩ | ⟨-, -, -, hviable⟩
    · exact absurd hposition (by simp)
    · exact hviable

end Eligibility.Formula

import Eligibility.Proofs.Document.RoundTrip

/-!
# How documents begin

What kind of document a text holds shows at its first token: when lists and objects are put
together, the outermost one that is open decides about the whole (`kindName_of_assembled`), and it
was opened first. So a text that is read as a list begins with an opening bracket, once the blanks
in front are left out (`head?_trim_of_read?`).
-/

namespace Eligibility

namespace Document

/-! ## Kinds -/

/-- The kind of what is still open. -/
def Frame.kindName : Frame → String
  | .inList _ => (Value.list []).kindName
  | .inObject .. => (Value.object []).kindName

/-- The kind of document that begins with a token, if one does. -/
def Token.kindName : Token → String
  | .scalar v => v.kindName
  | .openList => (Value.list []).kindName
  | .openObject => (Value.object []).kindName
  | _ => ""

/-- The kind of the whole, where a part of some kind stands inside what is still open. -/
def outermost (kind : String) (frames : List Frame) : String :=
  frames.foldl (fun _ frame => frame.kindName) kind

/-- The kind of the first token, if there is one. -/
def firstKind (ts : List Token) : String := ts.head?.elim "" Token.kindName

/-- The outermost list or object that is open decides about the kind of the whole, and if there is
none, the first token does. -/
theorem kindName_of_assembled {document : Value} :
    (∀ ts frames, value? ts frames = .ok document →
      document.kindName = outermost (firstKind ts) frames) ∧
    ∀ v ts frames, resume? v ts frames = .ok document →
      document.kindName = outermost v.kindName frames := by
  apply value?.mutual_induct
    (fun ts frames => value? ts frames = .ok document →
      document.kindName = outermost (firstKind ts) frames)
    (fun v ts frames => resume? v ts frames = .ok document →
      document.kindName = outermost v.kindName frames)
  case case1 =>
    intro v rest frames ih h
    rw [value?] at h
    exact ih h
  case case2 =>
    intro count rest frames h
    rw [value?] at h
    cases h
  case case3 =>
    intro rest frames ih h
    rw [value?] at h
    exact ih h
  case case4 =>
    intro rest frames hrest ih h
    rw [value?] at h
    · exact ih h
    · exact hrest
  case case5 =>
    intro rest frames ih h
    rw [value?] at h
    exact ih h
  case case6 =>
    intro key rest frames ih h
    rw [value?] at h
    exact ih h
  case case7 =>
    intro ts frames h1 h2 h3 h4 h5 h6 h
    rw [value?] at h
    · cases h
    all_goals assumption
  case case8 =>
    intro v h
    rw [resume?] at h
    exact Except.ok.inj h ▸ rfl
  case case9 =>
    intro v rest done frames ih h
    rw [resume?] at h
    exact ih h
  case case10 =>
    intro v rest done frames ih h
    rw [resume?] at h
    exact ih h
  case case11 =>
    intro v next rest done key frames ih h
    rw [resume?] at h
    exact ih h
  case case12 =>
    intro v rest done key frames ih h
    rw [resume?] at h
    exact ih h
  case case13 =>
    intro ts v frames h1 h2 h3 h4 h5 h
    rw [resume?] at h
    · cases h
    all_goals assumption

/-! ## The first token -/

theorem kindName_of_bareWord? {cs : List Char} {v : Value} (h : bareWord? cs = some v) :
    v.kindName ≠ (Value.list []).kindName := by
  unfold bareWord? at h
  iterate 6
    split at h
    · exact Option.some.inj h ▸ by decide
  obtain ⟨n, -, rfl⟩ := Option.map_eq_some_iff.mp h
  cases n <;> simp [Value.kindName]

/-- What has been begun without a bracket or brace is no list. -/
theorem firstKind_of_pending {pending : Pending} {cs : List Char} {ts : List Token}
    (hpending : pending ≠ .nothing) (h : tokens? pending cs = some ts) :
    firstKind ts ≠ (Value.list []).kindName := by
  induction cs generalizing pending with
  | nil =>
      cases pending with
      | nothing => exact absurd rfl hpending
      | bare taken =>
          rw [tokens?] at h
          split at h
          · exact Option.some.inj h ▸ by simp [firstKind, Token.kindName, Value.kindName]
          · obtain ⟨v, hv, rfl⟩ := Option.map_eq_some_iff.mp h
            exact kindName_of_bareWord? hv
      | quoted taken => cases h
      | escaped taken => cases h
  | cons c cs ih =>
      cases pending with
      | nothing => exact absurd rfl hpending
      | bare taken =>
          rw [tokens?] at h
          split at h
          · split at h
            · exact Option.some.inj h ▸ by simp [firstKind, Token.kindName, Value.kindName]
            · obtain ⟨v, hv, h⟩ := Option.bind_eq_some_iff.mp h
              obtain ⟨ts', -, h⟩ := Option.bind_eq_some_iff.mp h
              obtain rfl := Option.some.inj h
              exact kindName_of_bareWord? hv
          · exact ih (by simp) h
      | quoted taken =>
          rw [tokens?] at h
          split at h
          · obtain ⟨s, -, h⟩ := Option.bind_eq_some_iff.mp h
            obtain ⟨ts', -, h⟩ := Option.bind_eq_some_iff.mp h
            obtain rfl := Option.some.inj h
            simp [firstKind, Token.kindName, Value.kindName]
          · split at h
            · cases h
            · split at h
              · exact ih (by simp) h
              · exact ih (by simp) h
      | escaped taken =>
          rw [tokens?] at h
          exact ih (by simp) h

/-- A character between two tokens is a gap, or a mark, or begins something that is not yet read. -/
theorem start_cases (c : Char) :
    (isGap c = true ∧ start c = ([], .nothing)) ∨
    (∃ t, mark? c = some t ∧ start c = ([t], .nothing)) ∨
    ∃ pending, pending ≠ .nothing ∧ start c = ([], pending) := by
  unfold start
  split
  · rename_i hgap
    exact .inl ⟨hgap, rfl⟩
  · split
    · exact .inr (.inr ⟨_, by simp, rfl⟩)
    · split
      · rename_i t ht
        exact .inr (.inl ⟨t, ht, rfl⟩)
      · exact .inr (.inr ⟨_, by simp, rfl⟩)

theorem eq_of_mark?_list {c : Char} {t : Token} (h : mark? c = some t)
    (hkind : t.kindName = (Value.list []).kindName) : c = '[' := by
  unfold mark? at h
  split at h
  · rfl
  all_goals cases h <;> simp [Token.kindName, Value.kindName] at hkind

/-- The tokens of a list begin with a bracket, with gaps in front at most. -/
theorem exists_gaps_of_firstKind {cs : List Char} {ts : List Token}
    (h : tokens? .nothing cs = some ts) (hkind : firstKind ts = (Value.list []).kindName) :
    ∃ gaps rest, (∀ c ∈ gaps, isGap c = true) ∧ cs = gaps ++ '[' :: rest := by
  induction cs generalizing ts with
  | nil =>
      obtain rfl := Option.some.inj h
      simp [firstKind, Value.kindName] at hkind
  | cons c cs ih =>
      rw [tokens?] at h
      rcases start_cases c with ⟨hgap, hstart⟩ | ⟨t, ht, hstart⟩ | ⟨pending, hpending, hstart⟩ <;>
        rw [hstart] at h <;> obtain ⟨later, hlater, rfl⟩ := Option.map_eq_some_iff.mp h
      · obtain ⟨gaps, rest, hgaps, rfl⟩ := ih hlater hkind
        exact ⟨c :: gaps, rest, List.forall_mem_cons.mpr ⟨hgap, hgaps⟩, rfl⟩
      · obtain rfl := eq_of_mark?_list ht hkind
        exact ⟨[], cs, by simp, rfl⟩
      · exact absurd hkind (firstKind_of_pending hpending hlater)

end Document

/-! ## Blanks in front -/

namespace Text

/-- What is trimmed begins with its first character that is not dropped. -/
theorem head?_trimBy {outer : Char → Bool} {front rest : List Char} {c : Char}
    (hfront : ∀ d ∈ front, outer d = true) (hc : outer c = false) :
    (trimBy outer (front ++ c :: rest)).head? = some c := by
  have hdropped : (front ++ c :: rest).dropWhile outer = c :: rest := by
    rw [List.dropWhile_append_of_pos hfront, List.dropWhile_cons_of_neg (by simp [hc])]
  rw [trimBy, hdropped, List.head?_reverse, List.reverse_cons, List.dropWhile_append]
  split
  · simp [hc]
  · simp

end Text

/-- A text that is read as a list begins with an opening bracket. -/
theorem Document.head?_trim_of_read? {s : String} {items : List Value}
    (h : read? s = .ok (.list items)) : (Text.trim s).toList.head? = some '[' := by
  obtain ⟨ts, hts, hvalue⟩ : ∃ ts, tokens? .nothing s.toList = some ts ∧
      value? ts [] = .ok (.list items) := by
    unfold read? at h
    split at h
    · cases h
    · exact ⟨_, ‹_›, h⟩
  have hkind := kindName_of_assembled.1 ts [] hvalue
  obtain ⟨gaps, rest, hgaps, hs⟩ := exists_gaps_of_firstKind hts hkind.symm
  have hblank : ∀ c ∈ gaps, Text.isBlank c = true := by
    intro c hc
    have hgap := hgaps c hc
    simp only [isGap, Bool.or_eq_true, beq_iff_eq] at hgap
    rcases hgap with ((rfl | rfl) | rfl) | rfl <;> decide
  rw [Text.trim, String.toList_ofList, hs]
  exact Text.head?_trimBy hblank (by decide)

end Eligibility

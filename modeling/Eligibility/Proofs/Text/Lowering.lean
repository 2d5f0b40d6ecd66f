import Eligibility.Text.Lowercase
import Mathlib.Data.List.TakeWhile

/-!
# Lower case in context

What a character becomes in lower case depends on the characters around it only if it is a capital
sigma. So a part of a text has the same lower-case form in every text, as long as each of its
capital sigmas has what decides about it inside the part (`IsSteady`, `lowerBetween_of_isSteady`).
No other part has: there is a text with one more letter in which the lower-case form of the part
does not occur at all (`exists_text_without`). `isSteady_iff` says both: the steady parts are those
whose occurrences in a text are not lost in lower case.
-/

namespace Eligibility.Text

/-! ## Parts of a text -/

/-- The lower-case form of a part of a text, given what stands before it, nearest first, and behind
it. -/
def lowerBetween (before part after : List Char) : List Char :=
  match part with
  | [] => []
  | c :: cs => lowerAt before c (cs ++ after) ++ lowerBetween (c :: before) cs after

/-- The lower-case form of a capital sigma, given what stands before it, nearest first, and behind
it. -/
def lowerSigma (before after : List Char) : Char :=
  if nextIsCased before && !nextIsCased after then 'ς' else 'σ'

section Parts

variable {before after front back : List Char} {c : Char}

theorem lowerAt_sigma : lowerAt before 'Σ' after = [lowerSigma before after] := by
  simp [lowerAt, lowerSigma]

/-- All other characters keep out of what stands around them. -/
theorem lowerAt_of_ne (h : c ≠ 'Σ') (before before' after after' : List Char) :
    lowerAt before c after = lowerAt before' c after' := by
  rw [lowerAt, lowerAt, if_neg h, if_neg h]

theorem lowerBetween_append (before front back after : List Char) :
    lowerBetween before (front ++ back) after =
      lowerBetween before front (back ++ after) ++
        lowerBetween (front.reverse ++ before) back after := by
  induction front generalizing before with
  | nil => rfl
  | cons c cs ih => simp [lowerBetween, ih]

theorem lowerFrom_eq (before cs : List Char) : lowerFrom before cs = lowerBetween before cs [] := by
  induction cs generalizing before with
  | nil => rfl
  | cons c cs ih => rw [lowerFrom, lowerBetween, ih, List.append_nil]

theorem toList_lower (s : String) : (lower s).toList = lowerBetween [] s.toList [] := by
  rw [lower, String.toList_ofList, lowerFrom_eq]

theorem length_lowerAt (before before' after after' : List Char) :
    (lowerAt before c after).length = (lowerAt before' c after').length := by
  by_cases hc : c = 'Σ'
  · rw [hc, lowerAt_sigma, lowerAt_sigma, List.length_singleton, List.length_singleton]
  · rw [lowerAt_of_ne hc before before' after after']

theorem length_lowerBetween (before before' part after after' : List Char) :
    (lowerBetween before part after).length = (lowerBetween before' part after').length := by
  induction part generalizing before before' with
  | nil => rfl
  | cons c cs ih =>
      rw [lowerBetween, lowerBetween, List.length_append, List.length_append, ih _ (c :: before'),
        length_lowerAt before before' (cs ++ after) (cs ++ after')]

end Parts

/-! ## Capital sigmas -/

/-- Among these characters there is one that is not passed over in the search for a letter. -/
def Decides (cs : List Char) : Prop := ∃ c ∈ cs, inTable caseIgnorableTable c = false

section Sigmas

variable {cs more before after : List Char}

theorem decides_iff : Decides cs ↔ cs.dropWhile (inTable caseIgnorableTable) ≠ [] := by
  simp [Decides, List.dropWhile_eq_nil_iff]

theorem decides_of_nextIsCased (h : nextIsCased cs = true) : Decides cs := by
  rw [decides_iff]
  intro hnil
  simp [nextIsCased, hnil] at h

/-- The search ends among characters one of which is not passed over. -/
theorem nextIsCased_append_of_decides (h : Decides cs) (more : List Char) :
    nextIsCased (cs ++ more) = nextIsCased cs := by
  obtain ⟨c, rest, hrest⟩ := List.exists_cons_of_ne_nil (decides_iff.mp h)
  simp [nextIsCased, List.dropWhile_append, hrest]

/-- It goes on behind characters all of which are passed over. -/
theorem nextIsCased_append_of_not_decides (h : ¬ Decides cs) (more : List Char) :
    nextIsCased (cs ++ more) = nextIsCased more := by
  rw [decides_iff, ne_eq, Classical.not_not] at h
  simp [nextIsCased, List.dropWhile_append, h]

/-- What stands on the two sides of a capital sigma settles its form, whatever stands beyond. It is
not final in front of a letter, or behind a character that is none, and otherwise both sides have to
decide. -/
def SettlesSigma (before after : List Char) : Prop :=
  nextIsCased after = true ∨ Decides before ∧ (nextIsCased before = false ∨ Decides after)

theorem lowerSigma_of_settles (h : SettlesSigma before after) (more more' : List Char) :
    lowerSigma (before ++ more) (after ++ more') = lowerSigma before after := by
  rcases h with hafter | ⟨hdecides, hbefore | hdecides'⟩
  · have hmore := nextIsCased_append_of_decides (decides_of_nextIsCased hafter) more'
    simp [lowerSigma, hmore, hafter]
  · have hmore := nextIsCased_append_of_decides hdecides more
    simp [lowerSigma, hmore, hbefore]
  · rw [lowerSigma, lowerSigma, nextIsCased_append_of_decides hdecides,
      nextIsCased_append_of_decides hdecides']

/-- Any letter behind a capital sigma that is not settled changes its form, or any letter in front
of it does. -/
theorem lowerSigma_of_not_settles (h : ¬ SettlesSigma before after) :
    (∀ letter, nextIsCased [letter] = true →
        lowerSigma before (after ++ [letter]) ≠ lowerSigma before after) ∨
      ∀ letter, nextIsCased [letter] = true →
        lowerSigma (before ++ [letter]) after ≠ lowerSigma before after := by
  obtain ⟨hafter, hbefore⟩ := not_or.mp h
  rw [Bool.not_eq_true] at hafter
  by_cases hdecides : Decides before
  · -- the sigma ends a word, unless a letter follows
    left
    intro letter hletter
    obtain ⟨hcased, hdecides'⟩ := not_or.mp (not_and.mp hbefore hdecides)
    rw [Bool.not_eq_false] at hcased
    have hmore := nextIsCased_append_of_not_decides hdecides' [letter]
    simp [lowerSigma, hmore, hletter, hcased, hafter]
  · -- the sigma begins a word, unless a letter stands in front
    right
    intro letter hletter
    have hmore := nextIsCased_append_of_not_decides hdecides [letter]
    have halone := nextIsCased_append_of_not_decides hdecides []
    rw [List.append_nil] at halone
    have hnone : nextIsCased [] = false := rfl
    simp [lowerSigma, hmore, halone, hletter, hafter, hnone]

end Sigmas

/-! ## Steady parts -/

/-- The forms of all capital sigmas of the part are settled inside the part. -/
def IsSteady (part : List Char) : Prop :=
  ∀ front back, part = front ++ 'Σ' :: back → SettlesSigma front.reverse back

section Steady

variable {part front back before after : List Char}

theorem isSteady_of_not_mem (h : 'Σ' ∉ part) : IsSteady part := by
  rintro front back rfl
  exact absurd (by simp) h

/-- The rest of a part of which some characters have been passed, nearest first, does not depend on
what stands around the part. -/
theorem lowerBetween_of_settled (passed : List Char)
    (h : ∀ front back, part = front ++ 'Σ' :: back → SettlesSigma (front.reverse ++ passed) back) :
    lowerBetween (passed ++ before) part after = lowerBetween passed part [] := by
  induction part generalizing passed with
  | nil => rfl
  | cons c cs ih =>
      have hrest : lowerBetween (c :: passed ++ before) cs after =
          lowerBetween (c :: passed) cs [] := by
        refine ih (c :: passed) fun front back hcs => ?_
        have hsettles := h (c :: front) back (by rw [hcs, List.cons_append])
        rwa [List.reverse_cons, List.append_assoc] at hsettles
      have hfirst : lowerAt (passed ++ before) c (cs ++ after) = lowerAt passed c (cs ++ []) := by
        by_cases hc : c = 'Σ'
        · have hsettles : SettlesSigma passed cs := h [] cs (by rw [hc, List.nil_append])
          rw [hc, lowerAt_sigma, lowerAt_sigma, List.append_nil,
            lowerSigma_of_settles hsettles]
        · exact lowerAt_of_ne hc _ _ _ _
      rw [lowerBetween, lowerBetween, hfirst]
      exact congrArg _ hrest

/-- **A steady part has one lower-case form.** -/
theorem lowerBetween_of_isSteady (h : IsSteady part) (before after : List Char) :
    lowerBetween before part after = lowerBetween [] part [] :=
  lowerBetween_of_settled [] fun front back hpart => by
    simpa using h front back hpart

/-- A part has another form where one of its capital sigmas has. -/
theorem lowerBetween_ne (h : lowerSigma (front.reverse ++ before) (back ++ after) ≠
      lowerSigma front.reverse back) :
    lowerBetween before (front ++ 'Σ' :: back) after ≠
      lowerBetween [] (front ++ 'Σ' :: back) [] := by
  intro heq
  rw [lowerBetween_append, lowerBetween_append] at heq
  have hback := (List.append_inj heq (length_lowerBetween ..)).2
  simp only [lowerBetween, lowerAt_sigma, List.append_nil, List.singleton_append,
    List.cons.injEq] at hback
  exact h hback.1

/-- There are two letters that are in lower case, so one is not the character given. -/
theorem exists_letter (c? : Option Char) : ∃ letter, c? ≠ some letter ∧
    nextIsCased [letter] = true ∧ ∀ before after, lowerAt before letter after = [letter] := by
  have hlower {letter : Char} (h : letter = 'a' ∨ letter = 'b') (before after : List Char) :
      lowerAt before letter after = [letter] := by
    rcases h with rfl | rfl
    · rw [lowerAt, if_neg (by decide), if_neg (by decide)]
      decide
    · rw [lowerAt, if_neg (by decide), if_neg (by decide)]
      decide
  by_cases hc : c? = some 'a'
  · exact ⟨'b', by rw [hc]; decide, by decide, hlower (.inr rfl)⟩
  · exact ⟨'a', hc, by decide, hlower (.inl rfl)⟩

/-- A part with one more character in front holds no other part of the same length, unless that
begins with the character. -/
theorem not_infix_cons {cs : List Char} {c : Char} (hne : part ≠ cs)
    (hlength : part.length = cs.length) (hhead : part.head? ≠ some c) : ¬ part <:+: c :: cs := by
  rw [List.infix_cons_iff, List.prefix_cons_iff]
  rintro ((rfl | ⟨tail, rfl, -⟩) | hoccurs)
  · exact hne (List.eq_nil_of_length_eq_zero hlength.symm).symm
  · exact hhead rfl
  · exact hne (hoccurs.eq_of_length hlength)

/-- The same with a character behind. -/
theorem not_infix_concat {cs : List Char} {c : Char} (hne : part ≠ cs)
    (hlength : part.length = cs.length) (hlast : part.getLast? ≠ some c) :
    ¬ part <:+: cs ++ [c] := by
  rw [List.infix_concat_iff, List.suffix_concat_iff]
  rintro ((rfl | ⟨init, rfl, -⟩) | hoccurs)
  · exact hne (List.eq_nil_of_length_eq_zero hlength.symm).symm
  · exact hlast List.getLast?_concat
  · exact hne (hoccurs.eq_of_length hlength)

/-- A part that is not steady is lost in the lower-case form of a text with one more letter. -/
theorem exists_text_without (h : ¬ IsSteady part) : ∃ cs, part <:+: cs ∧
    ¬ lowerBetween [] part [] <:+: lowerBetween [] cs [] := by
  obtain ⟨front, back, hpart, hsettles⟩ : ∃ front back, part = front ++ 'Σ' :: back ∧
      ¬ SettlesSigma front.reverse back := by
    simpa [IsSteady] using h
  rcases lowerSigma_of_not_settles hsettles with hchange | hchange
  · obtain ⟨letter, hlast, hletter, hlower⟩ := exists_letter (lowerBetween [] part []).getLast?
    refine ⟨part ++ [letter], List.infix_append [] part [letter], ?_⟩
    have hconcat : lowerBetween [] (part ++ [letter]) [] =
        lowerBetween [] part [letter] ++ [letter] := by
      simp [lowerBetween_append, lowerBetween, hlower]
    have hne : lowerBetween [] part [letter] ≠ lowerBetween [] part [] := by
      rw [hpart]
      exact lowerBetween_ne (by simpa using hchange letter hletter)
    rw [hconcat]
    exact not_infix_concat hne.symm (length_lowerBetween ..) hlast
  · obtain ⟨letter, hhead, hletter, hlower⟩ := exists_letter (lowerBetween [] part []).head?
    refine ⟨letter :: part, List.infix_cons List.infix_rfl, ?_⟩
    have hcons : lowerBetween [] (letter :: part) [] =
        letter :: lowerBetween [letter] part [] := by
      simp [lowerBetween, hlower]
    have hne : lowerBetween [letter] part [] ≠ lowerBetween [] part [] := by
      rw [hpart]
      exact lowerBetween_ne (by simpa using hchange letter hletter)
    rw [hcons]
    exact not_infix_cons hne.symm (length_lowerBetween ..) hhead

end Steady

/-- **The steady texts are those that are found in lower case wherever they stand.** -/
theorem isSteady_iff (part : String) : IsSteady part.toList ↔ ∀ s : String,
    part.toList <:+: s.toList → (lower part).toList <:+: (lower s).toList := by
  simp only [toList_lower]
  constructor
  · rintro hsteady s ⟨front, back, hs⟩
    rw [← hs, List.append_assoc, lowerBetween_append, lowerBetween_append,
      lowerBetween_of_isSteady hsteady (front.reverse ++ []) (back ++ [])]
    exact ⟨_, _, List.append_assoc ..⟩
  · intro hfound
    by_contra hsteady
    obtain ⟨cs, hoccurs, hlost⟩ := exists_text_without hsteady
    rw [← String.toList_ofList (l := cs)] at hoccurs hlost
    exact hlost (hfound (String.ofList cs) hoccurs)

end Eligibility.Text

import Eligibility.Number.Reading

/-!
# What reads as a number

`isNumericText` is a test and `ofText?` a reader, and the two are written apart. This module
relates them: whatever passes the test can be read (`ofText?_of_isNumericText`), as the double
nearest to its decimal if it is no integer (`doubleOf?_of_decimalOf?`). The reader puts three steps
of its own in front, the underscores, the plus sign and the names, so most of the argument is that
none of them finds anything to do in a text that passes.
-/

namespace Eligibility.Number

open Eligibility.Text

/-! ## Digits at the start of a text -/

/-- Taking digits stops in front of whatever is no digit. -/
theorem mem_takeDigits_snd {c : Char} (hc : isDigit c = false) {cs : List Char} (hmem : c ∈ cs) :
    c ∈ (takeDigits cs).2 := by
  induction cs with
  | nil => exact absurd hmem List.not_mem_nil
  | cons head tail ih =>
      simp only [takeDigits]
      cases hd : digitValue? head with
      | none => exact hmem
      | some d =>
          rcases List.mem_cons.mp hmem with rfl | htail
          · simp [isDigit, hd] at hc
          · exact ih htail

/-- Digits in front of a text that starts with none are taken, all of them and no more. -/
theorem takeDigits_append {ds rest : List Char} (hds : ∀ c ∈ ds, isDigit c = true)
    (hrest : startsWithDigit rest = false) :
    takeDigits (ds ++ rest) = (ds.filterMap digitValue?, rest) := by
  induction ds with
  | nil =>
      cases rest with
      | nil => rfl
      | cons c cs =>
          have hc : digitValue? c = none := by simpa [startsWithDigit, isDigit] using hrest
          simp [takeDigits, hc]
  | cons head tail ih =>
      obtain ⟨d, hd⟩ := Option.isSome_iff_exists.mp (hds head List.mem_cons_self)
      rw [List.cons_append, takeDigits, hd, ih (fun c hc => hds c (List.mem_cons_of_mem _ hc)),
        List.filterMap_cons_some hd]

/-- Digits that end a text are all taken. -/
theorem takeDigits_of_forall {ds : List Char} (hds : ∀ c ∈ ds, isDigit c = true) :
    takeDigits ds = (ds.filterMap digitValue?, []) := by
  have htake : takeDigits (ds ++ []) = (ds.filterMap digitValue?, []) :=
    takeDigits_append hds rfl
  rwa [List.append_nil] at htake

/-! ## Underscores and signs -/

theorem isDigit_underscore : isDigit '_' = false := by decide

/-- A text without underscores has none to drop. -/
theorem dropUnderscores?_of_not_mem {cs : List Char} (h : '_' ∉ cs) (afterDigit : Bool) :
    dropUnderscores? afterDigit cs = some cs := by
  induction cs generalizing afterDigit with
  | nil => rfl
  | cons c cs ih =>
      have hc : c ≠ '_' := fun heq => h (heq ▸ List.mem_cons_self)
      rw [dropUnderscores?, if_neg hc, ih (fun hcs => h (List.mem_cons_of_mem _ hcs))]
      rfl

theorem mem_takeSign_snd {cs : List Char} (h : '_' ∈ cs) : '_' ∈ (takeSign cs).2 := by
  unfold takeSign
  split <;> simpa using h

/-- An exponent holds no underscore. -/
theorem not_mem_of_exponentOf? {cs : List Char} {power : Int} (h : exponentOf? cs = some power) :
    '_' ∉ cs := by
  cases cs with
  | nil => exact List.not_mem_nil
  | cons c cs =>
      intro hmem
      rw [exponentOf?] at h
      split at h
      · rename_i hmark
        have hbody : '_' ∈ (takeDigits (takeSign cs).2).2 := by
          apply mem_takeDigits_snd isDigit_underscore
          apply mem_takeSign_snd
          rcases List.mem_cons.mp hmem with heq | hcs
          · rw [← heq] at hmark
            exact absurd hmark (by decide)
          · exact hcs
        revert h
        rcases htaken : takeDigits (takeSign cs).2 with ⟨ds, rest⟩
        rw [htaken] at hbody
        cases ds with
        | nil => simp [htaken]
        | cons d ds =>
            cases rest with
            | nil => exact absurd hbody List.not_mem_nil
            | cons r rest => simp [htaken]
      · exact absurd h (by simp)

/-- A decimal holds no underscore. -/
theorem not_mem_of_decimalOf? {cs : List Char} (h : (decimalOf? cs).isSome = true) : '_' ∉ cs := by
  intro hmem
  have hrest : '_' ∈ (takeDigits cs).2 := mem_takeDigits_snd isDigit_underscore hmem
  unfold decimalOf? at h
  rcases htaken : takeDigits cs with ⟨whole, rest⟩
  rw [htaken] at h hrest
  simp only at h hrest
  -- the exponent begins behind the fraction, if there is one
  have hexponent : ∀ fraction tail, '_' ∈ tail → ¬ (if whole.isEmpty && fraction.isEmpty then none
      else (exponentOf? tail).map fun power =>
        (⟨ofDigits (whole ++ fraction), power - fraction.length⟩ : Decimal)).isSome = true := by
    intro fraction tail htail hsome
    split at hsome
    · exact absurd hsome (by simp)
    · rw [Option.isSome_map] at hsome
      obtain ⟨power, hpower⟩ := Option.isSome_iff_exists.mp hsome
      exact not_mem_of_exponentOf? hpower htail
  split at h
  · rename_i after
    have hafter : '_' ∈ (takeDigits after).2 :=
      mem_takeDigits_snd isDigit_underscore (by simpa using hrest)
    exact hexponent _ _ hafter h
  · exact hexponent [] _ hrest h

/-- In front of a decimal there is no sign to take but a minus. -/
theorem takeSign_of_decimalOf? {cs : List Char} (h : (decimalOf? (dropMinus cs)).isSome = true) :
    (takeSign cs).2 = dropMinus cs := by
  unfold takeSign
  split
  · rfl
  · rename_i cs
    have hplus : takeDigits ('+' :: cs) = ([], '+' :: cs) := by
      rw [takeDigits, show digitValue? '+' = none by decide]
    simp [dropMinus, decimalOf?, hplus] at h
  · rename_i hminus _
    unfold dropMinus
    split
    · rename_i cs _
      exact absurd rfl (hminus cs)
    · rfl

/-! ## Reading what passes the test -/

/-- A decimal begins with a digit or with a point. -/
theorem isDigit_head_of_decimalOf? {c : Char} {cs : List Char}
    (h : (decimalOf? (c :: cs)).isSome = true) : isDigit c = true ∨ c = '.' := by
  by_cases hpoint : c = '.'
  · exact .inr hpoint
  · left
    cases hc : digitValue? c with
    | some d => rw [isDigit, hc, Option.isSome_some]
    | none =>
        have htake : takeDigits (c :: cs) = ([], c :: cs) := by rw [takeDigits, hc]
        simp [decimalOf?, htake, hpoint] at h

/-- What holds of all code points below a bound holds of their characters. -/
theorem forall_char_of_lt {bound : Nat} {P : Char → Prop} (h : ∀ n < bound, P (Char.ofNat n))
    {c : Char} (hc : c.toNat < bound) : P c := by
  have hchar := h c.toNat hc
  rwa [Char.ofNat_toNat] at hchar

/-- Only letters have `i` and `n` as their lower case. -/
theorem mem_of_toLower {c : Char} (h : c.toLower = 'i' ∨ c.toLower = 'n') :
    c ∈ ['i', 'I', 'n', 'N'] := by
  by_cases hc : c.toNat < 128
  · exact forall_char_of_lt (P := fun c => c.toLower = 'i' ∨ c.toLower = 'n' →
      c ∈ ['i', 'I', 'n', 'N']) (by decide) hc h
  · have hsame : c.toLower = c := by
      unfold Char.toLower
      rw [dif_neg]
      rintro ⟨-, hle⟩
      have hbound : c.toNat ≤ 'Z'.toNat := hle
      exact hc (Nat.lt_of_le_of_lt hbound (by decide))
    rw [hsame] at h
    rcases h with rfl | rfl <;> decide

/-- A decimal is none of the names, whatever the case of their letters. -/
theorem map_toLower_ne_of_decimalOf? {cs name : List Char} (h : (decimalOf? cs).isSome = true)
    (hname : name.head? = some 'i' ∨ name.head? = some 'n') : cs.map Char.toLower ≠ name := by
  rintro rfl
  cases cs with
  | nil => simp at hname
  | cons c cs =>
      have hletter : c ∈ ['i', 'I', 'n', 'N'] := mem_of_toLower (by simpa using hname)
      have hhead := isDigit_head_of_decimalOf? h
      simp only [List.mem_cons, List.not_mem_nil, or_false] at hletter
      rcases hletter with rfl | rfl | rfl | rfl <;> exact absurd hhead (by decide)

/-- A decimal with a minus or without reads as the double nearest to it. -/
theorem doubleOf?_of_decimalOf? {cs : List Char} {d : Decimal}
    (h : decimalOf? (dropMinus cs) = some d) :
    doubleOf? cs = some (d.toBinary64 (takeSign cs).1) := by
  have hsome : (decimalOf? (dropMinus cs)).isSome = true := by rw [h, Option.isSome_some]
  have hplain : '_' ∉ cs := by
    intro hmem
    apply not_mem_of_decimalOf? hsome
    unfold dropMinus
    split
    · simpa using hmem
    · exact hmem
  have hbody := takeSign_of_decimalOf? hsome
  have hinf := map_toLower_ne_of_decimalOf? hsome (by decide : "inf".toList.head? = some 'i' ∨ _)
  have hinfinity :=
    map_toLower_ne_of_decimalOf? hsome (by decide : "infinity".toList.head? = some 'i' ∨ _)
  have hnan := map_toLower_ne_of_decimalOf? hsome (by decide : _ ∨ "nan".toList.head? = some 'n')
  simp only [doubleOf?, dropUnderscores?_of_not_mem hplain, Option.bind_eq_bind, Option.bind_some,
    hbody]
  rw [if_neg (not_or.mpr ⟨hinf, hinfinity⟩), if_neg hnan, h]
  rfl

/-- A text that passes the test for numbers can be read as one. -/
theorem ofText?_of_isNumericText {s : String} (h : isNumericText s = true) :
    ∃ n, ofText? s = some n := by
  obtain ⟨d, hd⟩ := Option.isSome_iff_exists.mp h
  have hdouble := doubleOf?_of_decimalOf? hd
  unfold ofText?
  simp only
  split
  · exact ⟨_, rfl⟩
  · exact ⟨.double _, by rw [hdouble]; rfl⟩

end Eligibility.Number

import Eligibility.Proofs.Document.Texts
import Eligibility.Text.Escape

/-!
# Reading escapes

A text that is written with escapes reads back (`unescaped_escaped`): the escapes give the bytes of
each character, and these make it up, whatever follows them. A slash ends whatever stands in front
of it, be it an escape or a character some of whose bytes are missing, since it is no hexadecimal
digit and no byte inside of a character. So both sides of a slash are read apart
(`unescaped_append_slash`).
-/

namespace Eligibility.Text

/-! ## Bytes of characters -/

namespace Utf8

variable {b : Nat} {rest : List Nat}

theorem bytesOfChar_lt {c : Char} (h : b ∈ bytesOfChar c) : b < 256 := by
  have hvalid := Document.toNat_valid c
  simp only [bytesOfChar] at h
  split at h
  · simp only [List.mem_singleton] at h
    omega
  · split at h
    · simp only [List.mem_cons, List.not_mem_nil, or_false] at h
      omega
    · split at h <;>
      · simp only [List.mem_cons, List.not_mem_nil, or_false] at h
        omega

theorem decodeFrom_of_part {p : Partial} (h : lead b = .part p) (rest : List Nat) :
    decodeFrom none (b :: rest) = decodeFrom (some p) rest := by
  show startWith b _ = _
  rw [startWith, h]

section Digits

variable {value missing low high digit : Nat}

theorem decodeFrom_of_more (hlow : low ≤ 0x80 + digit) (hhigh : 0x80 + digit ≤ high)
    (rest : List Nat) :
    decodeFrom (some ⟨value, missing + 2, low, high⟩) ((0x80 + digit) :: rest) =
      decodeFrom (some ⟨value * 64 + digit, missing + 1, 0x80, 0xBF⟩) rest := by
  rw [decodeFrom, if_pos ⟨hlow, hhigh⟩, if_neg (by simp), Nat.add_sub_cancel_left]
  rfl

theorem decodeFrom_of_last (hlow : low ≤ 0x80 + digit) (hhigh : 0x80 + digit ≤ high)
    (rest : List Nat) :
    decodeFrom (some ⟨value, 1, low, high⟩) ((0x80 + digit) :: rest) =
      Char.ofNat (value * 64 + digit) :: decodeFrom none rest := by
  rw [decodeFrom, if_pos ⟨hlow, hhigh⟩, if_pos (Nat.le_refl 1), Nat.add_sub_cancel_left]

end Digits

theorem lead_two {k : Nat} (hlow : 2 ≤ k) (hhigh : k < 32) :
    lead (0xC0 + k) = .part ⟨k, 1, 0x80, 0xBF⟩ := by
  rw [lead, if_neg (by omega), if_neg (by omega), if_pos (by omega), Nat.add_sub_cancel_left]

theorem lead_three {k : Nat} (h : k < 16) :
    lead (0xE0 + k) = .part ⟨k, 2, if 0xE0 + k = 0xE0 then 0xA0 else 0x80,
      if 0xE0 + k = 0xED then 0x9F else 0xBF⟩ := by
  rw [lead, if_neg (by omega), if_neg (by omega), if_neg (by omega), if_pos (by omega),
    Nat.add_sub_cancel_left]

theorem lead_four {k : Nat} (h : k < 5) :
    lead (0xF0 + k) = .part ⟨k, 3, if 0xF0 + k = 0xF0 then 0x90 else 0x80,
      if 0xF0 + k = 0xF4 then 0x8F else 0xBF⟩ := by
  rw [lead, if_neg (by omega), if_neg (by omega), if_neg (by omega), if_neg (by omega),
    if_pos (by omega), Nat.add_sub_cancel_left]

/-- The bytes of a character make it up, whatever follows them. -/
theorem decodeFrom_bytesOfChar (c : Char) (rest : List Nat) :
    decodeFrom none (bytesOfChar c ++ rest) = c :: decodeFrom none rest := by
  have hvalid := Document.toNat_valid c
  have hchar {n : Nat} (h : n = c.toNat) : Char.ofNat n = c := by
    rw [h, Char.ofNat_toNat]
  simp only [bytesOfChar]
  split
  · rename_i hone
    show startWith c.toNat _ = _
    rw [startWith, lead, if_pos hone]
    simp only [Char.ofNat_toNat]
    rfl
  · split
    · rw [List.cons_append, decodeFrom_of_part (lead_two (by omega) (by omega)), List.cons_append,
        decodeFrom_of_last (by omega) (by omega), hchar (by omega)]
      rfl
    · split
      · rw [List.cons_append, decodeFrom_of_part (lead_three (by omega)), List.cons_append,
          decodeFrom_of_more (by split <;> omega) (by split <;> omega), List.cons_append,
          decodeFrom_of_last (by omega) (by omega), hchar (by omega)]
        rfl
      · rw [List.cons_append, decodeFrom_of_part (lead_four (by omega)), List.cons_append,
          decodeFrom_of_more (by split <;> omega) (by split <;> omega), List.cons_append,
          decodeFrom_of_more (by omega) (by omega), List.cons_append,
          decodeFrom_of_last (by omega) (by omega), hchar (by omega)]
        rfl

/-- The bytes of a text make it up. -/
theorem decode_bytes (cs : List Char) : decode (bytes cs) = cs := by
  unfold decode bytes
  induction cs with
  | nil => rfl
  | cons c cs ih => rw [List.flatMap_cons, decodeFrom_bytesOfChar, ih]

/-- What is pending does not go on with a byte that is a character of its own. -/
def Waits : Option Partial → Prop
  | none => True
  | some p => 0x80 ≤ p.low

theorem waits_none : Waits none := trivial

theorem waits_of_lead {p : Partial} (h : lead b = .part p) : Waits (some p) := by
  unfold lead at h
  split at h
  · cases h
  · split at h
    · cases h
    · split at h
      · obtain rfl := Lead.part.inj h
        exact Nat.le_refl _
      · split at h
        · obtain rfl := Lead.part.inj h
          simp only [Waits]
          split <;> decide
        · split at h
          · obtain rfl := Lead.part.inj h
            simp only [Waits]
            split <;> decide
          · cases h

theorem startWith_append {continue_ continue' : Option Partial → List Char} {tail : List Char}
    (h : ∀ pending, Waits pending → continue_ pending = continue' pending ++ tail) (b : Nat) :
    startWith b continue_ = startWith b continue' ++ tail := by
  unfold startWith
  cases hlead : lead b with
  | whole c => simp only [h none waits_none, List.cons_append]
  | part p => exact h (some p) (waits_of_lead hlead)
  | invalid => simp only [h none waits_none, List.cons_append]

theorem startWith_of_lt (hb : b < 0x80) (continue_ : Option Partial → List Char) :
    startWith b continue_ = Char.ofNat b :: continue_ none := by
  rw [startWith, lead, if_pos hb]

/-- A byte that is a character of its own ends what is pending in front of it. -/
theorem decodeFrom_append (hb : b < 0x80) (bs rest : List Nat) {pending : Option Partial}
    (h : Waits pending) :
    decodeFrom pending (bs ++ b :: rest) =
      decodeFrom pending bs ++ Char.ofNat b :: decodeFrom none rest := by
  induction bs generalizing pending with
  | nil =>
      cases pending with
      | none => exact startWith_of_lt hb _
      | some p =>
          have hout : ¬ (p.low ≤ b ∧ b ≤ p.high) := by
            have hlow : 0x80 ≤ p.low := h
            omega
          show (if p.low ≤ b ∧ b ≤ p.high then _ else _ :: startWith b _) = _
          rw [if_neg hout, startWith_of_lt hb]
          rfl
  | cons b' bs ih =>
      cases pending with
      | none => exact startWith_append (fun _ hwaits => ih hwaits) b'
      | some p =>
          rw [List.cons_append, decodeFrom, decodeFrom]
          split
          · split
            · rw [ih waits_none, List.cons_append]
            · exact ih (Nat.le_refl 0x80)
          · rw [startWith_append (fun _ hwaits => ih hwaits) b', List.cons_append]

end Utf8

/-! ## Escapes -/

section Unescape

variable {a b c : Char}

theorem unescape_cons_of_ne (h : c ≠ '%') (rest : List Char) :
    unescape (c :: rest) = Utf8.bytesOfChar c ++ unescape rest := by
  rw [unescape.eq_def]
  split
  · rename_i heq
    cases heq
  · rename_i heq
    cases heq
    exact absurd rfl h
  · rename_i heq
    cases heq
    rfl

/-- A percent sign in front of anything but two digits stands for itself. -/
theorem unescape_of_not_escape
    (h : ∀ high low, hexValue? a = some high → hexValue? b = some low → False)
    (rest : List Char) : unescape ('%' :: a :: b :: rest) = 0x25 :: unescape (a :: b :: rest) := by
  rw [unescape]
  split
  · rename_i hhigh hlow
    exact (h _ _ hhigh hlow).elim
  · rfl

theorem unescape_percent_of_none (hdigit : hexValue? c = none) (rest : List Char) :
    unescape ('%' :: c :: rest) = 0x25 :: unescape (c :: rest) := by
  cases rest with
  | nil => rfl
  | cons b rest => exact unescape_of_not_escape (by simp [hdigit]) rest

/-- A character that is no digit ends the escape in front of it. -/
theorem unescape_append (hdigit : hexValue? c = none) (cs rest : List Char) :
    unescape (cs ++ c :: rest) = unescape cs ++ unescape (c :: rest) := by
  induction cs using unescape.induct with
  | case1 => rfl
  | case2 a b cs high low hlow hhigh ih =>
      simp only [List.cons_append, unescape, hhigh, hlow, ih]
  | case3 a b cs hnot ih =>
      rw [unescape_of_not_escape hnot, List.cons_append, List.cons_append, List.cons_append,
        unescape_of_not_escape hnot]
      exact congrArg (0x25 :: ·) ih
  | case4 d cs hnot ih =>
      by_cases hd : d = '%'
      · subst hd
        -- fewer than two characters follow the sign
        cases cs with
        | nil => exact unescape_percent_of_none hdigit rest
        | cons a cs =>
            cases cs with
            | nil =>
                rw [List.cons_append, List.cons_append, List.nil_append,
                  unescape_of_not_escape (by simp [hdigit])]
                exact congrArg (0x25 :: ·) ih
            | cons b cs => exact absurd rfl (hnot a b cs rfl)
      · rw [List.cons_append, unescape_cons_of_ne hd, ih, unescape_cons_of_ne hd, List.append_assoc]

/-- Both sides of a slash are read apart. -/
theorem unescaped_append_slash (cs rest : List Char) :
    unescaped (cs ++ '/' :: rest) = unescaped cs ++ "/" ++ unescaped rest := by
  have hbytes : unescape (cs ++ '/' :: rest) = unescape cs ++ 0x2F :: unescape rest := by
    rw [unescape_append (by decide), unescape_cons_of_ne (by decide)]
    rfl
  have hchars : Utf8.decode (unescape cs ++ 0x2F :: unescape rest) =
      Utf8.decode (unescape cs) ++ (['/'] ++ Utf8.decode (unescape rest)) :=
    Utf8.decodeFrom_append (by decide) (unescape cs) (unescape rest) Utf8.waits_none
  rw [unescaped, hbytes, hchars, String.ofList_append, String.ofList_append, String.append_assoc]
  rfl

end Unescape

/-! ## Written texts -/

section Escaped

variable {b : Nat} {c : Char} {more : List Char}

theorem hexValue?_toUpper {n : Nat} (h : n < 16) : hexValue? (hexDigit n).toUpper = some n := by
  have hall : ∀ n < 16, hexValue? (hexDigit n).toUpper = some n := by decide
  exact hall n h

theorem isAlphanum_toUpper {n : Nat} (h : n < 16) : (hexDigit n).toUpper.isAlphanum = true := by
  have hall : ∀ n < 16, (hexDigit n).toUpper.isAlphanum = true := by decide
  exact hall n h

theorem escapeByte_eq (b : Nat) :
    escapeByte b = ['%', (hexDigit (b / 16 % 16)).toUpper, (hexDigit (b % 16)).toUpper] := rfl

/-- The escape of a byte stands for it. -/
theorem unescape_escapeByte (hb : b < 256) (rest : List Char) :
    unescape (escapeByte b ++ rest) = b :: unescape rest := by
  simp only [escapeByte_eq, List.cons_append, List.nil_append, unescape,
    hexValue?_toUpper (Nat.mod_lt _ (by decide : 0 < 16))]
  rw [show 16 * (b / 16 % 16) + b % 16 = b by omega]

theorem unescape_flatMap_escapeByte {bs : List Nat} (h : ∀ b ∈ bs, b < 256) (rest : List Char) :
    unescape (bs.flatMap escapeByte ++ rest) = bs ++ unescape rest := by
  induction bs with
  | nil => rfl
  | cons b bs ih =>
      obtain ⟨hb, hbs⟩ := List.forall_mem_cons.mp h
      rw [List.flatMap_cons, List.append_assoc, unescape_escapeByte hb, ih hbs, List.cons_append]

theorem needsNoEscape_percent (h : '%' ∉ more) : needsNoEscape more '%' = false := by
  have hcontains : more.contains '%' = false := by simpa using h
  rw [needsNoEscape, hcontains]
  decide

/-- A text that is written with escapes reads back. -/
theorem unescaped_escaped (h : '%' ∉ more) (s : String) :
    unescaped (escaped more s).toList = s := by
  have hbytes : unescape (escaped more s).toList = Utf8.bytes s.toList := by
    rw [escaped, String.toList_ofList, Utf8.bytes]
    induction s.toList with
    | nil => rfl
    | cons c cs ih =>
        rw [List.flatMap_cons, List.flatMap_cons]
        split
        · rename_i hplain
          have hne : c ≠ '%' := by
            rintro rfl
            rw [needsNoEscape_percent h] at hplain
            cases hplain
          rw [List.singleton_append, unescape_cons_of_ne hne, ih]
        · rw [unescape_flatMap_escapeByte (fun b hb => Utf8.bytesOfChar_lt hb), ih]
  rw [unescaped, hbytes, Utf8.decode_bytes, String.ofList_toList]

/-- A written text has no characters but those that need no escape, and the signs of escapes. -/
theorem needsNoEscape_of_mem_escaped {s : String} (h : c ∈ (escaped more s).toList) :
    c = '%' ∨ needsNoEscape more c = true := by
  rw [escaped, String.toList_ofList] at h
  obtain ⟨d, -, hc⟩ := List.mem_flatMap.mp h
  split at hc
  · rename_i hplain
    obtain rfl := List.mem_singleton.mp hc
    exact .inr hplain
  · obtain ⟨b, -, hc⟩ := List.mem_flatMap.mp hc
    have hdigit (n : Nat) : needsNoEscape more (hexDigit (n % 16)).toUpper = true := by
      rw [needsNoEscape, isAlphanum_toUpper (Nat.mod_lt n (by decide)), Bool.true_or, Bool.true_or]
    rw [escapeByte_eq] at hc
    rcases List.mem_cons.mp hc with rfl | hc
    · exact .inl rfl
    · right
      rcases List.mem_cons.mp hc with rfl | hc
      · exact hdigit (b / 16)
      · obtain rfl := List.mem_singleton.mp hc
        exact hdigit b

end Escaped

end Eligibility.Text

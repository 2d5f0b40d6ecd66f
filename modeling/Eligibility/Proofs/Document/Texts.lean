import Eligibility.Document.Reader
import Eligibility.Document.Writer

/-!
# Texts in documents

A written text holds escapes for whatever is not printable ASCII. Between its quotes each character
is one step of the reader, however it is escaped (`unescape?_writeChar`): it gives the unit of the
character, or the two surrogates of a character beyond the first plane, and these make up the
character again (`charsOfUnits_append`). So the text reads back (`text?_written`), and the reader
stops at the closing quote and not before (`tokens?_writeTextOnto`).
-/

namespace Eligibility

/-! ## Units of UTF-16 -/

namespace Text

theorem hexValue?_hexDigit {n : Nat} (h : n < 16) : hexValue? (hexDigit n) = some n := by
  have hall : ∀ n < 16, hexValue? (hexDigit n) = some n := by decide
  exact hall n h

theorem ofHexDigits?_hexDigits {n : Nat} (h : n < 65536) :
    ofHexDigits? (hexDigits 4 n) = some n := by
  have hdigit (k : Nat) : hexValue? (hexDigit (k % 16)) = some (k % 16) :=
    hexValue?_hexDigit (Nat.mod_lt _ (by decide))
  simp only [hexDigits, List.nil_append, List.cons_append, ofHexDigits?, List.foldlM_cons,
    List.foldlM_nil, hdigit, Option.map_some, Option.bind_eq_bind, Option.bind_some,
    Option.pure_def]
  congr 1
  omega

end Text

namespace Document

/-- The units of a character: its number, or a pair of surrogates for it. -/
def unitsOfChar (c : Char) : List Nat :=
  if c.toNat < 65536 then [c.toNat]
  else [0xD800 + (c.toNat - 65536) / 1024, 0xDC00 + (c.toNat - 65536) % 1024]

/-- No character is a surrogate, and none is beyond the last plane. -/
theorem toNat_valid (c : Char) : c.toNat < 0xD800 ∨ 0xDFFF < c.toNat ∧ c.toNat < 0x110000 := c.valid

/-- The units of a character make it up, whatever follows them. -/
theorem charsOfUnits_append (c : Char) (ns : List Nat) :
    charsOfUnits (unitsOfChar c ++ ns) = c :: charsOfUnits ns := by
  have hvalid := toNat_valid c
  unfold unitsOfChar
  split
  · have hhigh : isHighSurrogate c.toNat = false := by
      simp [isHighSurrogate]
      omega
    have hlow : isLowSurrogate c.toNat = false := by
      simp [isLowSurrogate]
      omega
    have hchar : charOfUnit c.toNat = c := by
      rw [charOfUnit, hhigh, hlow, Bool.or_self, if_neg Bool.false_ne_true, Char.ofNat_toNat]
    cases ns with
    | nil => rw [List.append_nil, charsOfUnits, hchar, charsOfUnits]
    | cons n ns =>
        rw [List.singleton_append, charsOfUnits, hhigh, Bool.false_and, if_neg Bool.false_ne_true,
          hchar]
  · have hhigh : isHighSurrogate (0xD800 + (c.toNat - 65536) / 1024) = true := by
      simp [isHighSurrogate]
      omega
    have hlow : isLowSurrogate (0xDC00 + (c.toNat - 65536) % 1024) = true := by
      simp [isLowSurrogate]
      omega
    have hnumber : 0x10000 + 1024 * (0xD800 + (c.toNat - 65536) / 1024 - 0xD800) +
        (0xDC00 + (c.toNat - 65536) % 1024 - 0xDC00) = c.toNat := by omega
    rw [List.cons_append, List.singleton_append, charsOfUnits, hhigh, hlow, Bool.and_self,
      if_pos rfl, hnumber, Char.ofNat_toNat]

/-! ## Escapes -/

theorem unescape?_cons {c : Char} (hc : c ≠ '\\') (cs : List Char) :
    unescape? (c :: cs) = (unescape? cs).map (c.toNat :: ·) := by
  rw [unescape?]
  · exact fun _ _ _ _ _ heq _ => hc heq
  · exact fun _ _ heq _ => hc heq
  · exact fun heq _ => hc heq

theorem unescape?_unitEscape {n : Nat} (h : n < 65536) (cs : List Char) :
    unescape? (Value.unitEscape n ++ cs) = (unescape? cs).map (n :: ·) := by
  have hdigits := Text.ofHexDigits?_hexDigits h
  simp only [Text.hexDigits, List.nil_append, List.cons_append] at hdigits
  simp only [Value.unitEscape, Text.hexDigits, List.nil_append, List.cons_append]
  rw [unescape?, hdigits]
  cases unescape? cs <;> rfl

/-- Printable ASCII. -/
def IsAscii (c : Char) : Prop := 32 ≤ c.toNat ∧ c.toNat < 127

instance (c : Char) : Decidable (IsAscii c) := inferInstanceAs (Decidable (_ ∧ _))

/-- The ways in which a character is written between quotes. -/
inductive IsWritten (c : Char) : List Char → Prop
  | plain (hascii : IsAscii c) (hquote : c ≠ '"') (hescape : c ≠ '\\') : IsWritten c [c]
  | short (letter : Char) (hletter : IsAscii letter) (hc : c.toNat < 127)
      (hread : ∀ cs, unescape? ('\\' :: letter :: cs) =
        (unescape? cs).bind fun ns => some (c.toNat :: ns)) :
      IsWritten c ['\\', letter]
  | unit (h : c.toNat < 65536) : IsWritten c (Value.unitEscape c.toNat)
  | pair (h : 65536 ≤ c.toNat) : IsWritten c
      (Value.unitEscape (0xD800 + (c.toNat - 65536) / 1024) ++
        Value.unitEscape (0xDC00 + (c.toNat - 65536) % 1024))

theorem isWritten_writeChar (c : Char) : IsWritten c (Value.writeChar c) := by
  unfold Value.writeChar
  by_cases hquote : c = '"'
  · rw [if_pos hquote]
    subst hquote
    exact .short '"' (by decide) (by decide) fun cs => by simp [unescape?]
  rw [if_neg hquote]
  by_cases hescape : c = '\\'
  · rw [if_pos hescape]
    subst hescape
    exact .short '\\' (by decide) (by decide) fun cs => by simp [unescape?]
  rw [if_neg hescape]
  by_cases hline : c = '\n'
  · rw [if_pos hline]
    subst hline
    exact .short 'n' (by decide) (by decide) fun cs => by simp [unescape?]
  rw [if_neg hline]
  by_cases hreturn : c = '\r'
  · rw [if_pos hreturn]
    subst hreturn
    exact .short 'r' (by decide) (by decide) fun cs => by simp [unescape?]
  rw [if_neg hreturn]
  by_cases htab : c = '\t'
  · rw [if_pos htab]
    subst htab
    exact .short 't' (by decide) (by decide) fun cs => by simp [unescape?]
  rw [if_neg htab]
  by_cases hfeed : c = '\x0c'
  · rw [if_pos hfeed]
    subst hfeed
    exact .short 'f' (by decide) (by decide) fun cs => by simp [unescape?]
  rw [if_neg hfeed]
  by_cases hback : c = '\x08'
  · rw [if_pos hback]
    subst hback
    exact .short 'b' (by decide) (by decide) fun cs => by simp [unescape?]
  rw [if_neg hback]
  simp only
  by_cases hascii : 32 ≤ c.toNat ∧ c.toNat < 127
  · rw [if_pos hascii]
    exact .plain hascii hquote hescape
  rw [if_neg hascii]
  by_cases hlow : c.toNat < 65536
  · rw [if_pos hlow]
    exact .unit hlow
  · rw [if_neg hlow]
    exact .pair (Nat.le_of_not_lt hlow)

/-- What is written for a character is read as its units. -/
theorem unescape?_writeChar (c : Char) (cs : List Char) :
    unescape? (Value.writeChar c ++ cs) = (unescape? cs).map (unitsOfChar c ++ ·) := by
  have hvalid := toNat_valid c
  have hwritten := isWritten_writeChar c
  generalize Value.writeChar c = w at hwritten ⊢
  cases hwritten with
  | plain hascii _ hescape =>
      rw [unitsOfChar, if_pos (Nat.lt_trans hascii.2 (by decide))]
      exact unescape?_cons hescape cs
  | short letter _ hc hread =>
      rw [unitsOfChar, if_pos (Nat.lt_trans hc (by decide)), Option.map_eq_bind]
      exact hread cs
  | unit h =>
      rw [unitsOfChar, if_pos h]
      exact unescape?_unitEscape h cs
  | pair h =>
      rw [unitsOfChar, if_neg (Nat.not_lt.mpr h), List.append_assoc,
        unescape?_unitEscape (by omega), unescape?_unitEscape (by omega), Option.map_map]
      rfl

/-- What is written for a text. -/
def written (cs : List Char) : List Char := cs.flatMap Value.writeChar

theorem unescape?_written (cs : List Char) :
    unescape? (written cs) = some (cs.flatMap unitsOfChar) := by
  induction cs with
  | nil => rfl
  | cons c cs ih =>
      rw [written, List.flatMap_cons, unescape?_writeChar, ← written, ih]
      rfl

theorem charsOfUnits_flatMap (cs : List Char) : charsOfUnits (cs.flatMap unitsOfChar) = cs := by
  induction cs with
  | nil => rfl
  | cons c cs ih => rw [List.flatMap_cons, charsOfUnits_append, ih]

/-- A text reads back from what is written for it. -/
theorem text?_written (s : String) : text? (written s.toList) = some s := by
  rw [text?, unescape?_written, Option.map_some, charsOfUnits_flatMap, String.ofList_toList]

example : written ['\t', '\u00fc', Char.ofNat 0x1F600] = "\\t\\u00fc\\ud83d\\ude00".toList := by
  decide

/-! ## Between quotes -/

/-- Between quotes the reader takes this for a part of the text. -/
def Passes (w : List Char) : Prop :=
  ∀ taken cs, tokens? (.quoted taken) (w ++ cs) = tokens? (.quoted (w.reverse ++ taken)) cs

theorem passes_nil : Passes [] := fun _ _ => rfl

theorem Passes.append {w w' : List Char} (h : Passes w) (h' : Passes w') : Passes (w ++ w') := by
  intro taken cs
  rw [List.append_assoc, h, h', List.reverse_append, List.append_assoc]

theorem passes_plain {c : Char} (hlow : 32 ≤ c.toNat) (hquote : c ≠ '"') (hescape : c ≠ '\\') :
    Passes [c] := by
  intro taken cs
  rw [List.singleton_append, tokens?, if_neg hquote, if_neg (Nat.not_lt.mpr hlow), if_neg hescape]
  rfl

theorem passes_escape (letter : Char) : Passes ['\\', letter] := by
  intro taken cs
  rw [List.cons_append, tokens?, if_neg (by decide), if_neg (by decide), if_pos rfl]
  rfl

theorem hexDigit_spec {n : Nat} (h : n < 16) :
    IsAscii (Text.hexDigit n) ∧ Text.hexDigit n ≠ '"' ∧ Text.hexDigit n ≠ '\\' := by
  have hall : ∀ n < 16, IsAscii (Text.hexDigit n) ∧ Text.hexDigit n ≠ '"' ∧
      Text.hexDigit n ≠ '\\' := by decide
  exact hall n h

theorem passes_hexDigits (width n : Nat) : Passes (Text.hexDigits width n) := by
  induction width generalizing n with
  | zero => exact passes_nil
  | succ width ih =>
      obtain ⟨hascii, hquote, hescape⟩ := hexDigit_spec (Nat.mod_lt n (by decide : 16 > 0))
      exact (ih (n / 16)).append (passes_plain hascii.1 hquote hescape)

theorem passes_unitEscape (n : Nat) : Passes (Value.unitEscape n) :=
  (passes_escape 'u').append (passes_hexDigits 4 n)

theorem passes_writeChar (c : Char) : Passes (Value.writeChar c) := by
  have hwritten := isWritten_writeChar c
  generalize Value.writeChar c = w at hwritten ⊢
  cases hwritten with
  | plain hascii hquote hescape => exact passes_plain hascii.1 hquote hescape
  | short letter => exact passes_escape letter
  | unit => exact passes_unitEscape _
  | pair => exact (passes_unitEscape _).append (passes_unitEscape _)

theorem passes_written (cs : List Char) : Passes (written cs) := by
  induction cs with
  | nil => exact passes_nil
  | cons c cs ih => exact (passes_writeChar c).append ih

theorem writeTextOnto_eq (s : String) (rest : List Char) :
    Value.writeTextOnto s rest = '"' :: (written s.toList ++ '"' :: rest) := by
  have hfold : ∀ cs : List Char, cs.foldr (fun c cs => Value.writeChar c ++ cs) ('"' :: rest) =
      written cs ++ '"' :: rest := by
    intro cs
    induction cs with
    | nil => rfl
    | cons c cs ih => rw [List.foldr_cons, ih, ← List.append_assoc]; rfl
  rw [Value.writeTextOnto, hfold]

/-- A written text is one token, whatever follows it. -/
theorem tokens?_writeTextOnto (s : String) (rest : List Char) :
    tokens? .nothing (Value.writeTextOnto s rest) =
      (tokens? .nothing rest).map (.scalar (.text s) :: ·) := by
  have hstart : start '"' = ([], .quoted []) := rfl
  rw [writeTextOnto_eq, tokens?, hstart]
  simp only [List.nil_append, Option.map_id']
  rw [passes_written, tokens?, if_pos rfl, List.append_nil, List.reverse_reverse, text?_written]
  cases tokens? .nothing rest <;> rfl

/-! ## Written texts are ASCII -/

theorem isAscii_hexDigits {width n : Nat} {c : Char} (h : c ∈ Text.hexDigits width n) :
    IsAscii c := by
  induction width generalizing n with
  | zero => exact absurd h List.not_mem_nil
  | succ width ih =>
      rcases List.mem_append.mp h with h | h
      · exact ih h
      · rw [List.mem_singleton.mp h]
        exact (hexDigit_spec (Nat.mod_lt n (by decide : 16 > 0))).1

theorem isAscii_unitEscape {n : Nat} {c : Char} (h : c ∈ Value.unitEscape n) : IsAscii c := by
  rcases List.mem_cons.mp h with rfl | h
  · decide
  · rcases List.mem_cons.mp h with rfl | h
    · decide
    · exact isAscii_hexDigits h

theorem isAscii_writeChar {c x : Char} (h : x ∈ Value.writeChar c) : IsAscii x := by
  have hwritten := isWritten_writeChar c
  generalize Value.writeChar c = w at hwritten h
  cases hwritten with
  | plain hascii => exact List.mem_singleton.mp h ▸ hascii
  | short letter hletter =>
      rcases List.mem_cons.mp h with rfl | h
      · decide
      · exact List.mem_singleton.mp h ▸ hletter
  | unit => exact isAscii_unitEscape h
  | pair => exact (List.mem_append.mp h).elim isAscii_unitEscape isAscii_unitEscape

end Document

end Eligibility

import Eligibility.Document.Bytes
import Eligibility.Proofs.Document.RoundTrip

/-!
# Written documents as bytes

A written document is all printable ASCII (`isAscii_write`). None of its bytes is zero and none
begins a mark of a byte order, so a body that holds it is taken for UTF-8 and for the text itself
(`textOfBody?_write`).
-/

namespace Eligibility.Document

/-! ## Printable ASCII -/

theorem isAscii_of_all {w : List Char} (h : (w.all fun c => decide (IsAscii c)) = true) :
    ∀ c ∈ w, IsAscii c := by
  simpa using h

theorem isAscii_of_isPlainDigit {c : Char} (h : isPlainDigit c = true) : IsAscii c := by
  have hrange := toNat_of_isPlainDigit h
  exact ⟨by omega, by omega⟩

theorem isAscii_integerChars (n : Int) : ∀ c ∈ Number.integerChars n, IsAscii c := by
  intro c hc
  cases n with
  | ofNat n => exact isAscii_of_isPlainDigit (isPlainDigit_of_mem_digitChars hc)
  | negSucc n =>
      rcases List.mem_cons.mp hc with rfl | hc
      · decide
      · exact isAscii_of_isPlainDigit (isPlainDigit_of_mem_digitChars hc)

theorem isAscii_writeDouble (x : Number.Binary64) : ∀ c ∈ Value.writeDouble x, IsAscii c := by
  cases x with
  | nan => exact isAscii_of_all (by decide)
  | infinity negative =>
      cases negative with
      | true => exact isAscii_of_all (by decide)
      | false => exact isAscii_of_all (by decide)
  | finite negative rank =>
      intro c hc
      obtain ⟨m, hstrict, -, htext, -⟩ := exists_isStrict_text negative rank
      have hchars : c ∈ m.chars := htext ▸ hc
      rcases hstrict.mem_chars hchars with hdigit | hmark
      · exact isAscii_of_isPlainDigit hdigit
      · exact isAscii_of_all (by decide) c hmark

theorem isAscii_writeTextOnto (s : String) {rest : List Char} (h : ∀ c ∈ rest, IsAscii c) :
    ∀ c ∈ Value.writeTextOnto s rest, IsAscii c := by
  rw [writeTextOnto_eq]
  refine List.forall_mem_cons.mpr ⟨by decide, List.forall_mem_append.mpr ⟨?_, ?_⟩⟩
  · intro c hc
    obtain ⟨x, -, hx⟩ := List.mem_flatMap.mp hc
    exact isAscii_writeChar hx
  · exact List.forall_mem_cons.mpr ⟨by decide, h⟩

/-- A mark and a blank in front of a text. -/
theorem isAscii_spaced {c : Char} (hc : IsAscii c) {rest : List Char} (h : ∀ c ∈ rest, IsAscii c) :
    ∀ x ∈ c :: ' ' :: rest, IsAscii x :=
  List.forall_mem_cons.mpr ⟨hc, List.forall_mem_cons.mpr ⟨by decide, h⟩⟩

mutual

theorem isAscii_writeOnto : ∀ (v : Value) {rest : List Char}, (∀ c ∈ rest, IsAscii c) →
    ∀ c ∈ v.writeOnto rest, IsAscii c
  | .null, _, h => List.forall_mem_append.mpr ⟨isAscii_of_all (by decide), h⟩
  | .bool true, _, h => List.forall_mem_append.mpr ⟨isAscii_of_all (by decide), h⟩
  | .bool false, _, h => List.forall_mem_append.mpr ⟨isAscii_of_all (by decide), h⟩
  | .number (.int n), _, h => List.forall_mem_append.mpr ⟨isAscii_integerChars n, h⟩
  | .number (.double x), _, h => List.forall_mem_append.mpr ⟨isAscii_writeDouble x, h⟩
  | .text s, _, h => isAscii_writeTextOnto s h
  | .list [], _, h => List.forall_mem_cons.mpr ⟨by decide, List.forall_mem_cons.mpr ⟨by decide, h⟩⟩
  | .list (v :: vs), _, h =>
      List.forall_mem_cons.mpr ⟨by decide, isAscii_writeOnto v (isAscii_writeItemsOnto vs h)⟩
  | .object [], _, h =>
      List.forall_mem_cons.mpr ⟨by decide, List.forall_mem_cons.mpr ⟨by decide, h⟩⟩
  | .object ((k, v) :: fs), _, h =>
      List.forall_mem_cons.mpr ⟨by decide, isAscii_writeTextOnto k (isAscii_spaced (by decide)
        (isAscii_writeOnto v (isAscii_writeFieldsOnto fs h)))⟩

theorem isAscii_writeItemsOnto : ∀ (vs : List Value) {rest : List Char}, (∀ c ∈ rest, IsAscii c) →
    ∀ c ∈ Value.writeItemsOnto vs rest, IsAscii c
  | [], _, h => List.forall_mem_cons.mpr ⟨by decide, h⟩
  | v :: vs, _, h =>
      isAscii_spaced (by decide) (isAscii_writeOnto v (isAscii_writeItemsOnto vs h))

theorem isAscii_writeFieldsOnto : ∀ (fs : Fields) {rest : List Char}, (∀ c ∈ rest, IsAscii c) →
    ∀ c ∈ Value.writeFieldsOnto fs rest, IsAscii c
  | [], _, h => List.forall_mem_cons.mpr ⟨by decide, h⟩
  | (k, v) :: fs, _, h =>
      isAscii_spaced (by decide) (isAscii_writeTextOnto k (isAscii_spaced (by decide)
        (isAscii_writeOnto v (isAscii_writeFieldsOnto fs h))))

end

/-- A written document is printable ASCII. -/
theorem isAscii_write (v : Value) : ∀ c ∈ v.write.toList, IsAscii c := by
  rw [Value.write, String.toList_ofList]
  exact isAscii_writeOnto v fun c hc => absurd hc List.not_mem_nil

/-! ## Bodies -/

/-- Bytes without zeros are taken for UTF-8. -/
theorem ofBytes_of_ne_zero {bytes : List Nat} (h : ∀ b ∈ bytes, b ≠ 0) :
    ByteForm.ofBytes bytes = .utf8 := by
  match bytes, h with
  | [], _ => rfl
  | [_], _ => rfl
  | [a, b], h => simp [ByteForm.ofBytes, h a, h b]
  | [_, _, _], _ => rfl
  | a :: b :: _ :: _ :: _, h => simp [ByteForm.ofBytes, h a, h b]

/-- A body of printable ASCII is its own text. -/
theorem textOfBody?_of_isAscii {body : String} (h : ∀ c ∈ body.toList, IsAscii c) :
    textOfBody? body = some body := by
  have hbytes : ∀ b ∈ Text.Utf8.bytes body.toList, b ≠ 0 := by
    intro b hb
    obtain ⟨c, hc, hb⟩ := List.mem_flatMap.mp hb
    obtain ⟨hlow, hhigh⟩ := h c hc
    rw [Text.Utf8.bytesOfChar] at hb
    simp only [show c.toNat < 0x80 by omega, if_true, List.mem_singleton] at hb
    omega
  have hmark : dropByteOrderMark body.toList = body.toList := by
    unfold dropByteOrderMark
    split
    · rename_i cs hcs
      exact absurd (h '\uFEFF' (by simp [hcs])) (by decide)
    · rfl
  simp only [textOfBody?, ofBytes_of_ne_zero hbytes, hmark, String.ofList_toList]

/-- A body that holds a written document is its text. -/
theorem textOfBody?_write (v : Value) : textOfBody? v.write = some v.write :=
  textOfBody?_of_isAscii (isAscii_write v)

end Eligibility.Document

import Eligibility.Proofs.Document.Numbers
import Eligibility.Proofs.Document.Texts

/-!
# Written documents read back

A document is written as a sequence of tokens (`Value.tokensOnto`). The reader cuts what is written
into these tokens (`tokens?_writeOnto`) and assembles them again (`value?_tokensOnto`). So each
document in which no object has two fields of one name and no integer has too many digits
(`Value.IsTidy`) is read from its own written form (`read?_write`).
-/

namespace Eligibility

namespace Value

open Document (Token)

/-! ## Documents that can be written -/

mutual

/-- No object in the document has two fields of one name, and no integer has too many digits. -/
def IsTidy : Value → Prop
  | .number (.int n) => Number.isWritable n = true
  | .list items => AreTidy items
  | .object fields => (fields.map (·.1)).Nodup ∧ HasTidy fields
  | _ => True

/-- All items are tidy. -/
def AreTidy : List Value → Prop
  | [] => True
  | v :: vs => IsTidy v ∧ AreTidy vs

/-- The values of all fields are tidy. -/
def HasTidy : List (String × Value) → Prop
  | [] => True
  | (_, v) :: fs => IsTidy v ∧ HasTidy fs

end

theorem areTidy_iff {vs : List Value} : AreTidy vs ↔ ∀ v ∈ vs, v.IsTidy := by
  induction vs with
  | nil => simp [AreTidy]
  | cons v vs ih => rw [AreTidy, ih, List.forall_mem_cons]

/-! ## Tokens of a document -/

mutual

/-- The tokens of a document in front of tokens. -/
def tokensOnto : Value → List Token → List Token
  | .list [], rest => .openList :: .closeList :: rest
  | .list (v :: vs), rest => .openList :: tokensOnto v (itemTokensOnto vs rest)
  | .object [], rest => .openObject :: .closeObject :: rest
  | .object ((k, v) :: fs), rest =>
      .openObject :: .scalar (.text k) :: .colon :: tokensOnto v (fieldTokensOnto fs rest)
  | .null, rest => .scalar .null :: rest
  | .bool b, rest => .scalar (.bool b) :: rest
  | .number n, rest => .scalar (.number n) :: rest
  | .text s, rest => .scalar (.text s) :: rest

/-- The tokens of the items after the first one, and of the bracket. -/
def itemTokensOnto : List Value → List Token → List Token
  | [], rest => .closeList :: rest
  | v :: vs, rest => .comma :: tokensOnto v (itemTokensOnto vs rest)

/-- The tokens of the fields after the first one, and of the brace. -/
def fieldTokensOnto : List (String × Value) → List Token → List Token
  | [], rest => .closeObject :: rest
  | (k, v) :: fs, rest =>
      .comma :: .scalar (.text k) :: .colon :: tokensOnto v (fieldTokensOnto fs rest)

end

end Value

namespace Document

/-! ## Words without quotes -/

/-- The character ends a word that stands without quotes. -/
def isStop (c : Char) : Bool := isGap c || c == '"' || (mark? c).isSome

theorem not_isStop_of_all {w : List Char} (h : (w.all fun c => !isStop c) = true) :
    ∀ c ∈ w, isStop c = false := by
  simpa using h

/-- No word goes on into this text. -/
def EndsWord (cs : List Char) : Prop := ∀ c ∈ cs.head?, isStop c = true

theorem start_of_not_isStop {c : Char} (h : isStop c = false) : start c = ([], .bare [c]) := by
  simp only [isStop, Bool.or_eq_false_iff, beq_eq_false_iff_ne, Option.isSome_eq_false_iff,
    Option.isNone_iff_eq_none] at h
  rw [start, h.1.1, if_neg Bool.false_ne_true, if_neg h.1.2, h.2]

theorem tokens?_bare_append {w : List Char} (hw : ∀ c ∈ w, isStop c = false)
    (taken rest : List Char) :
    tokens? (.bare taken) (w ++ rest) = tokens? (.bare (w.reverse ++ taken)) rest := by
  induction w generalizing taken with
  | nil => rfl
  | cons c w ih =>
      have hc : (isGap c || c == '"' || (mark? c).isSome) = false := hw c List.mem_cons_self
      rw [List.cons_append, tokens?, hc, if_neg Bool.false_ne_true,
        ih (fun x hx => hw x (List.mem_cons_of_mem _ hx)), List.reverse_cons, List.append_assoc,
        List.singleton_append]

/-- A word ends where no word goes on. -/
theorem tokens?_bare_of_endsWord {taken rest : List Char} {v : Value} {ts : List Token}
    (hshort : overlong? taken.reverse = none) (hread : bareWord? taken.reverse = some v)
    (hrest : EndsWord rest) (h : tokens? .nothing rest = some ts) :
    tokens? (.bare taken) rest = some (.scalar v :: ts) := by
  cases rest with
  | nil =>
      rw [tokens?, Option.some.injEq] at h
      rw [tokens?, hshort, hread, ← h]
      rfl
  | cons c rest =>
      have hc : (isGap c || c == '"' || (mark? c).isSome) = true := hrest c rfl
      rw [tokens?] at h
      rw [tokens?, hc, if_pos rfl, hshort, hread]
      cases hstart : tokens? (start c).2 rest with
      | none => simp [hstart] at h
      | some ts' =>
          simp only [hstart, Option.map_some, Option.some.injEq] at h
          simp [hstart, ← h]

/-- A word is one token if no word goes on behind it. -/
theorem tokens?_word {w rest : List Char} {v : Value} {ts : List Token}
    (hw : ∀ c ∈ w, isStop c = false) (hshort : overlong? w = none) (hread : bareWord? w = some v)
    (hrest : EndsWord rest) (h : tokens? .nothing rest = some ts) :
    tokens? .nothing (w ++ rest) = some (.scalar v :: ts) := by
  cases w with
  | nil =>
      have hnone : bareWord? [] = none := rfl
      rw [hnone] at hread
      cases hread
  | cons c w =>
      rw [List.cons_append, tokens?, start_of_not_isStop (hw c List.mem_cons_self)]
      simp only [List.nil_append, Option.map_id']
      rw [tokens?_bare_append fun x hx => hw x (List.mem_cons_of_mem _ hx)]
      exact tokens?_bare_of_endsWord (by simpa using hshort) (by simpa using hread) hrest h

/-- A mark is one token. -/
theorem tokens?_mark {c : Char} {t : Token} (hc : start c = ([t], .nothing)) {rest : List Char}
    {ts : List Token} (h : tokens? .nothing rest = some ts) :
    tokens? .nothing (c :: rest) = some (t :: ts) := by
  rw [tokens?, hc]
  simp only [h, Option.map_some, List.singleton_append]

/-- A blank between tokens is passed over. -/
theorem tokens?_blank (rest : List Char) :
    tokens? .nothing (' ' :: rest) = tokens? .nothing rest := by
  have hstart : start ' ' = ([], .nothing) := rfl
  rw [tokens?, hstart]
  simp

/-! ## Numbers are words -/

theorem not_isStop_of_isPlainDigit {c : Char} (h : isPlainDigit c = true) : isStop c = false := by
  have hbound : c.toNat < 58 := Nat.lt_succ_of_le (toNat_of_isPlainDigit h).2
  exact Number.forall_char_of_lt (P := fun c => isPlainDigit c = true → isStop c = false)
    (by decide) hbound h

theorem not_isStop_integerChars {n : Int} {c : Char} (h : c ∈ Number.integerChars n) :
    isStop c = false := by
  cases n with
  | ofNat n => exact not_isStop_of_isPlainDigit (isPlainDigit_of_mem_digitChars h)
  | negSucc n =>
      rcases List.mem_cons.mp h with rfl | h
      · decide
      · exact not_isStop_of_isPlainDigit (isPlainDigit_of_mem_digitChars h)

theorem not_isStop_writeDouble {x : Number.Binary64} {c : Char} (h : c ∈ Value.writeDouble x) :
    isStop c = false := by
  cases x with
  | nan => exact not_isStop_of_all (by decide) c h
  | infinity negative =>
      cases negative with
      | true => exact not_isStop_of_all (by decide) c h
      | false => exact not_isStop_of_all (by decide) c h
  | finite negative rank =>
      obtain ⟨m, hstrict, -, htext, -⟩ := exists_isStrict_text negative rank
      have hchars : c ∈ m.chars := htext ▸ h
      rcases hstrict.mem_chars hchars with hdigit | hmark
      · exact not_isStop_of_isPlainDigit hdigit
      · exact not_isStop_of_all (by decide) c hmark

/-! ## Documents are cut into their tokens -/

theorem endsWord_mark {c : Char} (hc : isStop c = true) (rest : List Char) :
    EndsWord (c :: rest) := by
  rintro x ⟨⟩
  exact hc

theorem endsWord_items (vs : List Value) (rest : List Char) :
    EndsWord (Value.writeItemsOnto vs rest) := by
  cases vs with
  | nil => exact endsWord_mark rfl _
  | cons v vs => exact endsWord_mark rfl _

theorem endsWord_fields (fs : Fields) (rest : List Char) :
    EndsWord (Value.writeFieldsOnto fs rest) := by
  cases fs with
  | nil => exact endsWord_mark rfl _
  | cons f fs => exact endsWord_mark rfl _

/-- A text in front of anything. -/
theorem tokens?_text (s : String) {rest : List Char} {ts : List Token}
    (h : tokens? .nothing rest = some ts) :
    tokens? .nothing (Value.writeTextOnto s rest) = some (.scalar (.text s) :: ts) := by
  rw [tokens?_writeTextOnto, h]
  rfl

/-- A name in front of a value. -/
theorem tokens?_name (key : String) {rest : List Char} {ts : List Token}
    (h : tokens? .nothing rest = some ts) :
    tokens? .nothing (Value.writeTextOnto key (':' :: ' ' :: rest)) =
      some (.scalar (.text key) :: .colon :: ts) := by
  have hstart : start ':' = ([.colon], .nothing) := rfl
  exact tokens?_text key (tokens?_mark hstart ((tokens?_blank rest).trans h))

mutual

/-- What is written for a document is cut into its tokens. -/
theorem tokens?_writeOnto : ∀ (v : Value), v.IsTidy → ∀ {rest : List Char} {ts : List Token},
    EndsWord rest → tokens? .nothing rest = some ts →
      tokens? .nothing (v.writeOnto rest) = some (v.tokensOnto ts)
  | .null, _, _, _, hrest, h => tokens?_word (not_isStop_of_all (by decide)) rfl rfl hrest h
  | .bool true, _, _, _, hrest, h => tokens?_word (not_isStop_of_all (by decide)) rfl rfl hrest h
  | .bool false, _, _, _, hrest, h => tokens?_word (not_isStop_of_all (by decide)) rfl rfl hrest h
  | .number (.int n), hv, _, _, hrest, h =>
      tokens?_word (fun _ => not_isStop_integerChars) (overlong?_integerChars hv)
        (bareWord?_integerChars n) hrest h
  | .number (.double x), _, _, _, hrest, h =>
      tokens?_word (fun _ => not_isStop_writeDouble) (overlong?_writeDouble x)
        (bareWord?_writeDouble x) hrest h
  | .text s, _, _, _, _, h => tokens?_text s h
  | .list [], _, _, _, _, h => tokens?_mark rfl (tokens?_mark rfl h)
  | .list (v :: vs), hv, rest, _, _, h =>
      tokens?_mark rfl
        (tokens?_writeOnto v hv.1 (endsWord_items vs rest) (tokens?_writeItemsOnto vs hv.2 h))
  | .object [], _, _, _, _, h => tokens?_mark rfl (tokens?_mark rfl h)
  | .object ((k, v) :: fs), hv, rest, _, _, h =>
      tokens?_mark rfl (tokens?_name k (tokens?_writeOnto v hv.2.1 (endsWord_fields fs rest)
        (tokens?_writeFieldsOnto fs hv.2.2 h)))

theorem tokens?_writeItemsOnto : ∀ (vs : List Value), Value.AreTidy vs →
    ∀ {rest : List Char} {ts : List Token}, tokens? .nothing rest = some ts →
      tokens? .nothing (Value.writeItemsOnto vs rest) = some (Value.itemTokensOnto vs ts)
  | [], _, _, _, h => tokens?_mark rfl h
  | v :: vs, hvs, rest, _, h =>
      tokens?_mark rfl ((tokens?_blank _).trans
        (tokens?_writeOnto v hvs.1 (endsWord_items vs rest) (tokens?_writeItemsOnto vs hvs.2 h)))

theorem tokens?_writeFieldsOnto : ∀ (fs : Fields), Value.HasTidy fs →
    ∀ {rest : List Char} {ts : List Token}, tokens? .nothing rest = some ts →
      tokens? .nothing (Value.writeFieldsOnto fs rest) = some (Value.fieldTokensOnto fs ts)
  | [], _, _, _, h => tokens?_mark rfl h
  | (k, v) :: fs, hfs, rest, _, h =>
      tokens?_mark rfl ((tokens?_blank _).trans (tokens?_name k
        (tokens?_writeOnto v hfs.1 (endsWord_fields fs rest)
          (tokens?_writeFieldsOnto fs hfs.2 h))))

end

/-! ## The tokens are assembled again -/

/-- A name that is new comes last. -/
theorem put_of_not_mem {fields : Fields} {key : String} (v : Value)
    (h : key ∉ fields.map (·.1)) : fields.put key v = fields ++ [(key, v)] := by
  induction fields with
  | nil => rfl
  | cons field rest ih =>
      obtain ⟨k, w⟩ := field
      simp only [List.map_cons, List.mem_cons, not_or] at h
      rw [Fields.put, if_neg (Ne.symm h.1), ih h.2]
      rfl

theorem not_mem_of_nodup {done more : List String} {key : String}
    (h : (done ++ key :: more).Nodup) : key ∉ done :=
  fun hkey => (List.nodup_append.mp h).2.2 key hkey key List.mem_cons_self rfl

/-- The tokens of a document begin with no mark that closes. -/
theorem tokensOnto_ne_closeList (v : Value) (rest rest' : List Token) :
    v.tokensOnto rest ≠ .closeList :: rest' := by
  cases v with
  | list items => cases items <;> simp [Value.tokensOnto]
  | object fields =>
      cases fields with
      | nil => simp [Value.tokensOnto]
      | cons field fields => simp [Value.tokensOnto]
  | _ => simp [Value.tokensOnto]

mutual

/-- The tokens of a tidy document are assembled to it. -/
theorem value?_tokensOnto : ∀ (v : Value), v.IsTidy → ∀ (rest : List Token) (frames : List Frame),
    value? (v.tokensOnto rest) frames = resume? v rest frames
  | .null, _, _, _ => by rw [Value.tokensOnto, value?]
  | .bool _, _, _, _ => by rw [Value.tokensOnto, value?]
  | .number _, _, _, _ => by rw [Value.tokensOnto, value?]
  | .text _, _, _, _ => by rw [Value.tokensOnto, value?]
  | .list [], _, _, _ => by rw [Value.tokensOnto, value?]
  | .list (v :: vs), h, rest, frames => by
      rw [Value.tokensOnto, value?, value?_tokensOnto v h.1, resume?_itemTokensOnto vs h.2]
      · rfl
      · exact fun rest' => tokensOnto_ne_closeList v _ rest'
  | .object [], _, _, _ => by rw [Value.tokensOnto, value?]
  | .object ((k, v) :: fs), h, rest, frames => by
      rw [Value.tokensOnto, value?, value?_tokensOnto v h.2.1,
        resume?_fieldTokensOnto fs h.2.2 (by simpa using h.1)]
      rfl

theorem resume?_itemTokensOnto : ∀ (vs : List Value), Value.AreTidy vs → ∀ (v : Value)
    (done : List Value) (rest : List Token) (frames : List Frame),
    resume? v (Value.itemTokensOnto vs rest) (.inList done :: frames) =
      resume? (.list (done.reverse ++ v :: vs)) rest frames
  | [], _, v, done, rest, frames => by
      rw [Value.itemTokensOnto, resume?, List.reverse_cons]
  | w :: vs, h, v, done, rest, frames => by
      rw [Value.itemTokensOnto, resume?, value?_tokensOnto w h.1, resume?_itemTokensOnto vs h.2]
      simp

theorem resume?_fieldTokensOnto : ∀ (fs : Fields), Value.HasTidy fs → ∀ {v : Value}
    {done : Fields} {key : String} {rest : List Token} {frames : List Frame},
    (done.map (·.1) ++ key :: fs.map (·.1)).Nodup →
    resume? v (Value.fieldTokensOnto fs rest) (.inObject done key :: frames) =
      resume? (.object (done ++ (key, v) :: fs)) rest frames
  | [], _, v, done, key, rest, frames, hnodup => by
      rw [Value.fieldTokensOnto, resume?, put_of_not_mem v (not_mem_of_nodup hnodup)]
  | (k, w) :: fs, h, v, done, key, rest, frames, hnodup => by
      have hput := put_of_not_mem v (not_mem_of_nodup hnodup)
      have hmore : ((done ++ [(key, v)]).map (·.1) ++ k :: fs.map (·.1)).Nodup := by
        simpa using hnodup
      rw [Value.fieldTokensOnto, resume?, hput, value?_tokensOnto w h.1,
        resume?_fieldTokensOnto fs h.2 hmore, List.append_assoc]
      rfl

end

/-- **A document is read from what is written for it,** if no object in it repeats a name and no
integer has too many digits. -/
theorem read?_write {v : Value} (h : v.IsTidy) : read? v.write = .ok v := by
  have hend : EndsWord [] := fun c hc => by cases hc
  rw [read?, Value.write, String.toList_ofList, tokens?_writeOnto v h hend rfl]
  show value? (v.tokensOnto []) [] = .ok v
  rw [value?_tokensOnto v h, resume?]

end Document

end Eligibility

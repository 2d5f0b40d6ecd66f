import Eligibility.Proofs.Document.Opening
import Eligibility.Proofs.Settings.Reading

/-!
# Numeric hints in the environment

The hints can be written in two ways, with commas and as a document, and both come to the same: the
entries in order, trimmed and in lower case, without those that are blank (`hints_commas`,
`hints_document`). Reading the settings looks at the variable of the hints for nothing but the hints
(`read_of_hints`). So two environments that differ in this variable only give settings that differ
in the hints only (`read_hints`).
-/

namespace Eligibility

namespace Text

theorem lower_eq_empty_iff (s : String) : lower s = "" ↔ s = "" := by
  have hchar (before : List Char) (c : Char) (after : List Char) : lowerAt before c after ≠ [] := by
    unfold lowerAt
    split
    · simp
    · split <;> simp
  have hchars (cs : List Char) : lowerFrom [] cs = [] ↔ cs = [] := by
    cases cs with
    | nil => simp [lowerFrom]
    | cons c cs => simp [lowerFrom, hchar]
  rw [lower, ← String.toList_inj, String.toList_ofList, String.toList_empty, hchars,
    String.toList_eq_nil_iff]

end Text

namespace Settings

open Text

/-! ## Commas -/

theorem splitCommas_of_not_mem {cs : List Char} (h : ',' ∉ cs) : splitCommas cs = [cs] := by
  induction cs with
  | nil => rfl
  | cons c cs ih =>
      obtain ⟨hc, hcs⟩ : ',' ≠ c ∧ ',' ∉ cs := by simpa using h
      rw [splitCommas, if_neg hc.symm, ih hcs]

theorem splitCommas_append {cs : List Char} (h : ',' ∉ cs) (rest : List Char) :
    splitCommas (cs ++ ',' :: rest) = cs :: splitCommas rest := by
  induction cs with
  | nil => rfl
  | cons c cs ih =>
      obtain ⟨hc, hcs⟩ : ',' ≠ c ∧ ',' ∉ cs := by simpa using h
      rw [List.cons_append, splitCommas, if_neg hc.symm, ih hcs]

/-- The parts of a text that was joined with commas, unless there were none to join. -/
theorem parts_intercalate {hs : List String} (h : ∀ s ∈ hs, ',' ∉ s.toList) (hne : hs ≠ []) :
    parts (",".intercalate hs) = hs := by
  induction hs with
  | nil => exact absurd rfl hne
  | cons s hs ih =>
      obtain ⟨hs', hrest⟩ := List.forall_mem_cons.mp h
      cases hs with
      | nil => simp [parts, splitCommas_of_not_mem hs']
      | cons t hs =>
          have hlater := ih hrest (by simp)
          have hjoined : (",".intercalate (s :: t :: hs)).toList =
              s.toList ++ ',' :: (",".intercalate (t :: hs)).toList := by
            simp [String.toList_intercalate]
          rw [parts] at hlater ⊢
          rw [hjoined, splitCommas_append hs', List.map_cons, hlater, String.ofList_toList]

/-! ## Hints -/

/-- The entries trimmed and in lower case, without the blank ones. -/
theorem cleanHints_eq (hs : List String) :
    cleanHints hs = (hs.map fun s => lower (trim s)).filter fun s => s ≠ "" := by
  have hblank (s : String) :
      (!(trim s).isEmpty) = ((fun t => decide (t ≠ "")) ∘ fun t => lower (trim t)) s := by
    rw [Bool.eq_iff_iff, Function.comp_apply]
    simp [lower_eq_empty_iff]
  rw [cleanHints, List.filter_map, List.filter_congr fun s _ => hblank s]

theorem hints_commas {hs : List String} (h : ∀ s ∈ hs, ',' ∉ s.toList)
    (hplain : (trim (",".intercalate hs)).toList.head? ≠ some '[') :
    hints (.text (",".intercalate hs)) = .ok (.ok (cleanHints hs)) := by
  rw [hints, if_neg hplain]
  cases hs with
  | nil => rfl
  | cons s hs => rw [parts_intercalate h (by simp)]

theorem allTexts_map_text (hs : List String) : allTexts (hs.map .text) = .ok hs := by
  induction hs with
  | nil => rfl
  | cons s hs ih =>
      rw [List.map_cons, allTexts, ih]
      rfl

theorem hints_document {hs : List String} {document : String}
    (h : Document.read? document = .ok (.texts hs)) :
    hints (.text document) = .ok (.ok (cleanHints hs)) := by
  rw [hints, if_pos (Document.head?_trim_of_read? h), h]
  show ((allTexts (hs.map .text)).map cleanHints).map Checked.ok = _
  rw [allTexts_map_text]
  rfl

/-! ## Sources -/

/-- The field of the hints. -/
def hintsField : String := "numeric_attribute_hints"

section Sources

variable {env env' : Variables} {given raw : Fields} {fields : List String} {text : String}

/-- The environments have the same values for all fields but the hints. -/
def DiffersInHints (env env' : Variables) : Prop :=
  ∀ field, field ≠ hintsField → valueIn? env field = valueIn? env' field

theorem fromEnvironment_hints (env : Variables) :
    fromEnvironment env hintsField = .ok ((valueIn? env hintsField).map .text) := by
  unfold fromEnvironment
  cases valueIn? env hintsField with
  | none => rfl
  | some s => exact if_neg (by decide)

/-- What is looked at next is the value of the first field, the caller's before the environment's.
-/
theorem sources_cons (env : Variables) (given : Fields) (field : String) (fields : List String) :
    sources env given (field :: fields) = (fromEnvironment env field).bind fun fromEnv =>
      (sources env given fields).map fun rest =>
        ((givenUnder given field).head?.or fromEnv).toList.map (field, ·) ++ rest := by
  rw [sources]
  cases fromEnvironment env field with
  | error e => rfl
  | ok fromEnv =>
      cases sources env given fields with
      | error e => rfl
      | ok rest =>
          cases (givenUnder given field).head? with
          | some v => rfl
          | none => cases fromEnv <;> rfl

theorem get?_append_of_ne {field key : String} (h : key ≠ field) (v : Option Value)
    (rest : Fields) : Fields.get? (v.toList.map (field, ·) ++ rest) key = rest.get? key := by
  cases v with
  | none => rfl
  | some v => exact (Fields.get?_cons field key v rest).trans (if_neg h)

/-- Environments that differ in the hints only have the same values for the other fields, or the
same error. -/
theorem sources_cases (h : DiffersInHints env env') (given : Fields) (fields : List String) :
    (∃ e, sources env given fields = .error e ∧ sources env' given fields = .error e) ∨
    ∃ raw raw', sources env given fields = .ok raw ∧ sources env' given fields = .ok raw' ∧
      ∀ key, key ≠ hintsField → raw.get? key = raw'.get? key := by
  induction fields with
  | nil => exact .inr ⟨[], [], rfl, rfl, fun _ _ => rfl⟩
  | cons field fields ih =>
      rw [sources_cons, sources_cons]
      by_cases hfield : field = hintsField
      · rw [hfield, fromEnvironment_hints, fromEnvironment_hints]
        rcases ih with ⟨e, hleft, hright⟩ | ⟨raw, raw', hleft, hright, hraw⟩ <;> rw [hleft, hright]
        · exact .inl ⟨e, rfl, rfl⟩
        · refine .inr ⟨_, _, rfl, rfl, fun key hkey => ?_⟩
          rw [get?_append_of_ne hkey, get?_append_of_ne hkey, hraw key hkey]
      · have hsame : fromEnvironment env' field = fromEnvironment env field := by
          simp only [fromEnvironment, h field hfield]
        rw [hsame]
        cases fromEnvironment env field with
        | error e => exact .inl ⟨e, rfl, rfl⟩
        | ok fromEnv =>
            rcases ih with ⟨e, hleft, hright⟩ | ⟨raw, raw', hleft, hright, hraw⟩ <;>
              rw [hleft, hright]
            · exact .inl ⟨e, rfl, rfl⟩
            · refine .inr ⟨_, _, rfl, rfl, fun key hkey => ?_⟩
              cases (givenUnder given field).head?.or fromEnv with
              | none => exact hraw key hkey
              | some v =>
                  show Fields.get? ((field, v) :: raw) key = Fields.get? ((field, v) :: raw') key
                  rw [Fields.get?_cons, Fields.get?_cons, hraw key hkey]

/-- The hints of the environment are found, unless the caller gives hints. -/
theorem get?_hints_sources (hvalue : valueIn? env hintsField = some text)
    (hgiven : givenUnder given hintsField = []) (hmem : hintsField ∈ fields)
    (h : sources env given fields = .ok raw) : raw.get? hintsField = some (.text text) := by
  induction fields generalizing raw with
  | nil => exact absurd hmem List.not_mem_nil
  | cons field fields ih =>
      rw [sources_cons] at h
      obtain ⟨fromEnv, hfromEnv, h⟩ := exists_of_bind_eq_ok h
      obtain ⟨rest, hrest, h⟩ := exists_of_map_eq_ok h
      subst h
      by_cases hfield : field = hintsField
      · subst hfield
        rw [fromEnvironment_hints, hvalue] at hfromEnv
        obtain rfl := Except.ok.inj hfromEnv
        rw [hgiven]
        exact (Fields.get?_cons ..).trans (if_pos rfl)
      · have hlater : hintsField ∈ fields :=
          (List.mem_cons.mp hmem).resolve_left fun heq => hfield heq.symm
        rw [get?_append_of_ne fun heq => hfield heq.symm]
        exact ih hlater hrest

end Sources

end Settings

/-! ## Checks -/

namespace Settings

open Text

variable {raw raw' : Fields} {env env' : Variables} {given : Fields} {s : Settings}

/-- With hints of their own, all other settings stay what they are. -/
theorem leads_checkFields (raw : Fields) (hints : Checked (List String)) (own : List String) :
    Checked.Leads (fun s t => t = { s with numericHints := own }) (checkFields raw hints)
      (checkFields raw (.ok own)) := by
  unfold checkFields
  refine .seq (.seq (.seq_ok ?_ _) _) _
  iterate 20 refine .seq ?_ _
  intro mk hmk
  obtain rfl := Checked.ok.inj hmk
  refine ⟨_, rfl, ?_⟩
  intro
  intros
  rfl

theorem checkFields_congr (h : ∀ key, key ≠ hintsField → raw.get? key = raw'.get? key)
    (hints : Checked (List String)) : checkFields raw hints = checkFields raw' hints := by
  have hsetting {α : Type} (field : String) (hfield : field ≠ hintsField) (default : α)
      (check : Value → Checked α) :
      setting raw field default check = setting raw' field default check := by
    rw [setting, setting, h field hfield]
  unfold checkFields
  simp (disch := decide) only [hsetting]

/-! ## Settings -/

/-- Settings with hints of the environment, once it is known what these come to. -/
theorem read_of_hints {text : String} {own : List String}
    (hvalue : valueIn? env hintsField = some text) (hgiven : givenUnder given hintsField = [])
    (hown : hints (.text text) = .ok (.ok own)) :
    read env given = (sources env given (Settings.default.toFields.map (·.1))).bind fun raw =>
      ((checkFields raw (.ok own)).andThen checkWorkers).toExcept.mapError .invalid := by
  unfold read
  cases hsources : sources env given (Settings.default.toFields.map (·.1)) with
  | error e => rfl
  | ok raw =>
      have hfound : raw.get? "numeric_attribute_hints" = some (.text text) :=
        get?_hints_sources hvalue hgiven (by decide) hsources
      simp only [bind, Except.bind, hfound, hown]

/-- What the environment says about the hints makes no difference but in the hints. -/
theorem read_differing {text : String} {own : List String} (hdiffers : DiffersInHints env env')
    (hvalue : valueIn? env' hintsField = some text) (hgiven : givenUnder given hintsField = [])
    (hown : hints (.text text) = .ok (.ok own)) (h : read env given = .ok s) :
    read env' given = .ok { s with numericHints := own } := by
  obtain ⟨raw, hints, checked, hraw, hchecked, hworkers⟩ := exists_of_read_eq_ok h
  obtain ⟨rfl, hfew⟩ := checkWorkers_eq_ok hworkers
  rw [read_of_hints hvalue hgiven hown]
  rcases sources_cases hdiffers given (Settings.default.toFields.map (·.1)) with
    ⟨e, herror, -⟩ | ⟨_, raw', hraw₁, hraw', hsame⟩
  · rw [hraw] at herror
    exact nomatch herror
  · obtain rfl := Except.ok.inj (hraw.symm.trans hraw₁)
    obtain ⟨_, howned, rfl⟩ := leads_checkFields raw hints own checked hchecked
    have hpasses : checkWorkers { checked with numericHints := own } =
        .ok { checked with numericHints := own } := if_neg hfew
    rw [hraw']
    show ((Checked.andThen (checkFields raw' _) _).toExcept.mapError _) = _
    rw [← checkFields_congr hsame, howned]
    show (Checked.toExcept (checkWorkers _)).mapError _ = _
    rw [hpasses]
    rfl

/-- Settings that were read with hints of the environment have these hints. -/
theorem numericHints_of_read {text : String} {own : List String}
    (hvalue : valueIn? env hintsField = some text) (hgiven : givenUnder given hintsField = [])
    (hown : hints (.text text) = .ok (.ok own)) (h : read env given = .ok s) :
    s.numericHints = own := by
  have hsame := read_differing (fun _ _ => rfl) hvalue hgiven hown h
  rw [h] at hsame
  exact congrArg numericHints (Except.ok.inj hsame)

/-! ## Variables -/

/-- A variable counts for its field if no later one has the same name. -/
theorem valueIn?_of_last {front back : Variables} {name field : String} (text : String)
    (hname : lower name = "rulecraft_" ++ field)
    (hback : ∀ other ∈ back, lower other.1 ≠ "rulecraft_" ++ field) :
    valueIn? (front ++ (name, text) :: back) field = some text := by
  rw [valueIn?, givenUnder, List.filter_append, List.filter_cons_of_pos (by simpa using hname),
    (List.filter_eq_nil_iff (l := back)).mpr fun other hother => by
      simpa using hback other hother]
  simp

/-- A variable counts for no other field than its own. -/
theorem valueIn?_of_ne {front back : Variables} {name field : String} (text : String)
    (hname : lower name ≠ "rulecraft_" ++ field) :
    valueIn? (front ++ (name, text) :: back) field = valueIn? (front ++ back) field := by
  rw [valueIn?, valueIn?, givenUnder, givenUnder, List.filter_append, List.filter_append,
    List.filter_cons_of_neg (by simpa using hname)]

/-- **Hints with commas and hints in a document.** Let a list of texts have no commas in it, and let
an environment give the hints in a variable, which no later variable overrides and no caller. The
texts joined with commas give the same settings as any document that is the list, unless the joined
texts begin with an opening bracket once they are trimmed. The hints are the texts in order, trimmed
and in lower case, without the empty ones; and if there are settings without the variable, then
there are settings with it, which differ from them in the hints only. The written form of the list
is such a document. -/
theorem read_hints {hs : List String} (hcommas : ∀ s ∈ hs, ',' ∉ s.toList)
    (hplain : (trim (",".intercalate hs)).toList.head? ≠ some '[') {document : String}
    (hdocument : Document.read? document = .ok (.texts hs)) {name : String}
    (hname : lower name = "rulecraft_numeric_attribute_hints") {front back : Variables}
    (hback : ∀ other ∈ back, lower other.1 ≠ "rulecraft_numeric_attribute_hints") {given : Fields}
    (hgiven : ∀ field ∈ given, lower field.1 ≠ "numeric_attribute_hints") :
    let env text := front ++ (name, text) :: back
    let expected := (hs.map fun s => lower (trim s)).filter fun s => s ≠ ""
    read (env (",".intercalate hs)) given = read (env document) given ∧
    (∀ s, read (env document) given = .ok s → s.numericHints = expected) ∧
    (∀ s, read (front ++ back) given = .ok s →
      read (env document) given = .ok { s with numericHints := expected }) ∧
    Document.read? (Value.texts hs).write = .ok (.texts hs) := by
  intro env expected
  have hvalue (text : String) : valueIn? (env text) hintsField = some text :=
    valueIn?_of_last text hname hback
  have hothers (text : String) : DiffersInHints (front ++ back) (env text) := by
    intro field hfield
    refine (valueIn?_of_ne text fun heq => hfield ?_).symm
    rw [hname] at heq
    exact String.append_right_inj _ |>.mp heq.symm
  have hfree : givenUnder given hintsField = [] := by
    rw [givenUnder, List.map_eq_nil_iff, List.filter_eq_nil_iff]
    exact fun field hfield => by simpa [hintsField] using hgiven field hfield
  have hclean : cleanHints hs = expected := cleanHints_eq hs
  have hjoined : hints (.text (",".intercalate hs)) = .ok (.ok expected) :=
    hclean ▸ hints_commas hcommas hplain
  have hlisted : hints (.text document) = .ok (.ok expected) :=
    hclean ▸ hints_document hdocument
  have htidy : (Value.texts hs).IsTidy := by
    rw [Value.texts, Value.IsTidy, Value.areTidy_iff]
    simp [Value.IsTidy]
  refine ⟨?_, fun s => numericHints_of_read (hvalue _) hfree hlisted,
    fun s => read_differing (hothers document) (hvalue _) hfree hlisted, Document.read?_write htidy⟩
  rw [read_of_hints (hvalue _) hfree hjoined, read_of_hints (hvalue _) hfree hlisted]
  have hdiffers : DiffersInHints (env (",".intercalate hs)) (env document) :=
    fun field hfield => (hothers _ field hfield).symm.trans (hothers _ field hfield)
  rcases sources_cases hdiffers given (Settings.default.toFields.map (·.1)) with
    ⟨e, hleft, hright⟩ | ⟨raw, raw', hleft, hright, hsame⟩
  · rw [hleft, hright]
  · rw [hleft, hright]
    show ((checkFields raw _).andThen _).toExcept.mapError _ = _
    rw [checkFields_congr hsame]
    rfl

/-- A blank, an empty entry, a bracket and quotes inside the entries. -/
theorem read_hints_of_entries :
    let hs := [" Age ", "", "[pay", "a \"b\""]
    let name := "RULECRAFT_NUMERIC_ATTRIBUTE_HINTS"
    let expected := { Settings.default with numericHints := ["age", "[pay", "a \"b\""] }
    ",".intercalate hs = " Age ,,[pay,a \"b\"" ∧
    (Value.texts hs).write = "[\" Age \", \"\", \"[pay\", \"a \\\"b\\\"\"]" ∧
    read [(name, ",".intercalate hs)] [] = .ok expected ∧
    read [(name, (Value.texts hs).write)] [] = .ok expected := by
  intro hs name expected
  have htidy : (Value.texts hs).IsTidy := by
    rw [Value.texts, Value.IsTidy, Value.areTidy_iff]
    simp [Value.IsTidy]
  obtain ⟨hsame, -, hread, -⟩ := @read_hints hs (by decide) (by decide) _
    (Document.read?_write htidy) name (by decide +kernel) [] [] (by simp) [] (by simp)
  have hdefault : read [] [] = .ok .default := by rfl
  have hexpected : read [(name, (Value.texts hs).write)] [] = .ok expected := hread _ hdefault
  exact ⟨by decide, by decide +kernel, hsame.trans hexpected, hexpected⟩

end Settings

end Eligibility

import Eligibility.Proofs.Number.Order
import Eligibility.Proofs.Rule.NumberOrder
import Eligibility.Proofs.Rule.RoundTrip

/-!
# Numbers in quotes

A number of a rule may stand in quotes. Without them it is read together with the rule. With them it
stays a text until it is compared with a number, and is read then. Both come to the same: whatever
the scanner cuts out as a number, be it a numeral or a word, passes the test for numbers that texts
are put to, and one reader reads it in both places (`ofText?_quotedNumber`). An integer with too
many digits is read in neither, and there the two differ: without quotes the rule is not read, and
with them it is the comparison with a number that has no outcome.
-/

namespace Eligibility

open Text Token

/-- There is no quote in what is cut out as a number. -/
theorem Token.quote_not_mem_of_number {lexeme : List Char} (h : IsLexeme .number lexeme) :
    '\'' ∉ lexeme := by
  intro hquote
  generalize hkind : TokenKind.number = kind at h
  cases h with
  | numeral m => rcases m.mem_chars hquote with h | h | h <;> exact absurd h (by decide)
  | word hne hword => exact absurd (hword _ hquote) (by decide)
  | _ => exact absurd hkind (by simp)

/-- What an equals sign tests is loose equality. -/
theorem Comparison.test_equals (name : String) (l : Literal) (actual : Value) :
    Comparison.test ⟨name, "=", l⟩ actual = (actual.looselyEqual l.toValue).map .ofBool := by
  have horder : orderOf? "=" = none := by simp [orderOf?]
  rw [Comparison.test, horder]
  exact if_pos rfl

namespace Formula

/-- The text of a number is equal to the numbers that what it is read as is equal to. -/
theorem evaluate_numericText (name : String) {s : String}
    (hnumeric : Number.isNumericText s = true) (x : Number) :
    (Formula.atom ⟨name, "=", .text s⟩).evaluate [(name, .number x)] =
      (Number.read s).map fun n => .ofBool (x.equal n) := by
  rw [evaluate_single ⟨name, "=", .text s⟩ (.number x), Comparison.test_equals]
  show (Value.readsAs s x).map _ = _
  rw [Value.readsAs, if_pos hnumeric]
  cases Number.read s with
  | error e => rfl
  | ok n => exact congrArg (fun b => Except.ok (Outcome.ofBool b)) (Number.equal_comm n x)

/-- What is cut out as a number makes a comparison with its text when it stands in quotes. -/
theorem ofText?_quoted {name lexeme : String} (hname : IsName name.toList)
    (hlexeme : IsLexeme .number lexeme.toList) (maxDepth : Nat) :
    ofText? (name ++ " = '" ++ lexeme ++ "'") maxDepth = .ok (.atom ⟨name, "=", .text lexeme⟩) := by
  have hchars : ("'" ++ lexeme ++ "'").toList = '\'' :: (lexeme.toList ++ ['\'']) := by simp
  have hscan := (IsLexeme.quoted (.inl rfl) (quote_not_mem_of_number hlexeme)).scanFrom_eq
    (name.length + 3)
  rw [← hchars] at hscan
  have htext : name ++ " = '" ++ lexeme ++ "'" = name ++ " = " ++ ("'" ++ lexeme ++ "'") :=
    String.toList_inj.mp (by simp)
  rw [htext, ofText?_of_literal hname hscan rfl (converts_of_ne (by simp))]
  simp [Token.literal]

/-- **Quotes around a number make no difference to numbers, as long as it is read.** Take whatever
the scanner cuts out as a number of any text, and any name. The rule that asks for it in quotes is
read, as a comparison with its text, and

* if the number is read, then the rule that asks for it without quotes is read too, as a comparison
  with the number, and on a record with a number both have the same outcome: they pass if the two
  numbers are equal;
* otherwise it has too many digits, the rule without quotes is not read, and on a record with a
  number the rule with quotes has no outcome. -/
theorem ofText?_quotedNumber {text name : String} {token : Token} (htoken : token ∈ scan text)
    (hkind : token.kind = .number) (hname : scan name = [⟨.name, name, 0⟩]) (maxDepth : Nat) :
    let quoted : Formula := .atom ⟨name, "=", .text token.lexeme⟩
    ofText? (name ++ " = '" ++ token.lexeme ++ "'") maxDepth = .ok quoted ∧
      ((∃ n, Number.read token.lexeme = .ok n ∧
        let bare : Formula := .atom ⟨name, "=", .number n⟩
        ofText? (name ++ " = " ++ token.lexeme) maxDepth = .ok bare ∧
          ∀ x : Number, bare.evaluate [(name, .number x)] = quoted.evaluate [(name, .number x)] ∧
            quoted.evaluate [(name, .number x)] = .ok (.ofBool (x.equal n))) ∨
      ∃ count, Number.maxDigits < count ∧
        Number.read token.lexeme = .error (.tooManyDigits count) ∧
        ofText? (name ++ " = " ++ token.lexeme) maxDepth =
          .error (.number (.tooManyDigits count)) ∧
        ∀ x : Number, quoted.evaluate [(name, .number x)] = .error (.tooManyDigits count)) := by
  intro quoted
  have hlexeme : IsLexeme .number token.lexeme.toList :=
    hkind ▸ isLexeme_of_mem_scanFrom htoken
  have hnumeric : Number.isNumericText token.lexeme = true := readable_of_mem_scan htoken hkind
  have hword : IsName name.toList := (scan_eq_single_iff name).mp hname
  have hscan := scanFrom_number hlexeme (name.length + 3)
  refine ⟨ofText?_quoted hword hlexeme maxDepth, ?_⟩
  rcases Number.read_of_isNumericText hnumeric with ⟨n, hn⟩ | ⟨count, hlt, hlong⟩
  · refine .inl ⟨n, hn, ?_, fun x => ?_⟩
    · rw [ofText?_of_literal hword hscan rfl fun _ => ⟨n, hn⟩]
      simp [Token.literal, (Number.read_eq_ok_iff.mp hn).2]
    · have hquoted : quoted.evaluate [(name, .number x)] = .ok (.ofBool (x.equal n)) := by
        rw [evaluate_numericText name hnumeric x, hn]
        rfl
      have hbare : (Formula.atom ⟨name, "=", .number n⟩).evaluate [(name, .number x)] =
          .ok (.ofBool (x.equal n)) := evaluate_number name "=" x n
      exact ⟨hbare.trans hquoted.symm, hquoted⟩
  · refine .inr ⟨count, hlt, hlong, ofText?_of_read_error hword hscan rfl hlong maxDepth,
      fun x => ?_⟩
    rw [evaluate_numericText name hnumeric x, hlong]
    rfl

/-- A word with a digit of another script and a power of ten is a number, and a record with an
integer passes with quotes around it and without. -/
theorem ofText?_quotedNumber_of_word :
    let token : Token := ⟨.number, "٣e2", 6⟩
    let record : Record := [("age", .number (.int 300))]
    token ∈ scan "(x <> ٣e2" ∧ scan "age" = [⟨.name, "age", 0⟩] ∧
      ∃ bare quoted, ofText? "age = ٣e2" 0 = .ok bare ∧ ofText? "age = '٣e2'" 0 = .ok quoted ∧
        bare.evaluate record = .ok .passed ∧ quoted.evaluate record = .ok .passed := by
  intro token record
  have htoken : token ∈ scan "(x <> ٣e2" := by decide +kernel
  have hname : scan "age" = [⟨.name, "age", 0⟩] := by decide +kernel
  have hvalue : Number.read "٣e2" = .ok (.double (.ofRatio false 300 1)) := by decide +kernel
  obtain ⟨hquoted, hread⟩ := ofText?_quotedNumber htoken rfl hname 0
  rcases hread with ⟨n, hn, hbare, hsame⟩ | ⟨count, -, hlong, -⟩
  · obtain rfl : n = .double (.ofRatio false 300 1) := Except.ok.inj (hn.symm.trans hvalue)
    have hequal : (Number.int 300).equal (.double (.ofRatio false 300 1)) = true := by
      decide +kernel
    obtain ⟨heq, houtcome⟩ := hsame (.int 300)
    rw [hequal] at houtcome
    exact ⟨htoken, hname, _, _, hbare, hquoted, heq.trans houtcome, houtcome⟩
  · cases hlong.symm.trans hvalue

/-- A number of too many digits is read with quotes and not without, and compares with no number. -/
theorem not_quotedNumber_of_long :
    let digits := String.ofList (List.replicate 4301 '1')
    ⟨.number, digits, 0⟩ ∈ scan digits ∧
      ofText? ("a" ++ " = " ++ digits) 64 = .error (.number (.tooManyDigits 4301)) ∧
      ofText? ("a" ++ " = '" ++ digits ++ "'") 64 = .ok (.atom ⟨"a", "=", .text digits⟩) ∧
      (Formula.atom ⟨"a", "=", .text digits⟩).evaluate [("a", .number (.int 1))] =
        .error (.tooManyDigits 4301) := by
  intro digits
  have hone : 4301 ≠ 0 := by decide
  have hchars : digits.toList = (Number.Numeral.ones 4301 hone).chars := String.toList_ofList
  have hlexeme : IsLexeme .number digits.toList := hchars ▸ IsLexeme.numeral _
  have hscan : scan digits = [⟨.number, digits, 0⟩] := scanFrom_number hlexeme 0
  have hlong : Number.read digits = .error (.tooManyDigits 4301) :=
    Number.Numeral.read_ones (by decide)
  have hnumeric : Number.isNumericText digits = true := Number.Numeral.isNumericText_ones hone
  have hword : IsName "a".toList := ⟨by simp, List.all_eq_true.mp (by decide), by decide +kernel⟩
  refine ⟨by rw [hscan]; exact List.mem_singleton.mpr rfl,
    ofText?_ones hword (by decide) 64, ofText?_quoted hword hlexeme 64, ?_⟩
  rw [evaluate_numericText "a" hnumeric, hlong]
  rfl

end Formula

end Eligibility

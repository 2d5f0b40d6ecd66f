import Eligibility.Proofs.Rule.Parsing
import Eligibility.Proofs.Rule.Printing

/-!
# From formulas to texts and back

The printer, the scanner and the parser put together, in three main results:

* a formula reads back from its text exactly when its comparisons can be written, its numbers
  are finite, its integers do not have too many digits, and the printed groups stay within the
  limit;
* if the formula was itself read from a text, only its doubles matter: an infinity can be read
  but not written, and no integer is read that has too many digits;
* a formula that was read from a text is printed with no more groups than the text has, and
  nests them no deeper.

Of a text that is read, the numbers are readable and the comparisons spellable, because every
token of a scan looks like its kind (`readable_of_mem_scan`, `spellable_of_ofText?`). Of a text
that is printed, the tokens are known (`shows_scan_text`). What `Rereads` asks for is taken
apart into these two.
-/

namespace Eligibility

open Text Token

/-! ## Equal literals -/

/-- A finite number has a place between the infinities. -/
theorem Number.exists_place {n : Number} (hn : n.isFinite = true) :
    ∃ units, n.place? = some (.units units) := by
  match n with
  | .int _ => exact ⟨_, rfl⟩
  | .double (.finite ..) => exact ⟨_, rfl⟩

/-- What is exactly equal to a finite number is finite. -/
theorem Number.isFinite_of_equal {m n : Number} (h : m.equal n = true) (hm : m.isFinite = true) :
    n.isFinite = true := by
  obtain ⟨units, hplace⟩ := exists_place hm
  rw [equal, compare?, hplace] at h
  match n with
  | .int _ => rfl
  | .double (.finite ..) => rfl
  | .double .nan => exact absurd h Bool.false_ne_true
  | .double (.infinity true) => exact absurd h Bool.false_ne_true
  | .double (.infinity false) => exact absurd h Bool.false_ne_true

theorem Number.equal_self {n : Number} (hn : n.isFinite = true) : n.equal n = true := by
  obtain ⟨units, hplace⟩ := exists_place hn
  simp [equal, compare?, hplace, Place.compare]

theorem Literal.Finite.of_same {u v : Literal} (hu : u.Finite) (h : u.same v = true) :
    v.Finite := by
  match u, v with
  | .text _, .text _ => trivial
  | .number _, .number _ => exact Number.isFinite_of_equal h hu
  | .text _, .number _ => exact absurd h Bool.false_ne_true
  | .number _, .text _ => trivial

theorem Literal.Quotable.of_same {u v : Literal} (hu : u.Quotable) (h : u.same v = true) :
    v.Quotable := by
  match u, v with
  | .text _, .text _ =>
      obtain rfl := eq_of_beq h
      exact hu
  | .number _, .number _ => trivial
  | .text _, .number _ => trivial
  | .number _, .text _ => exact absurd h Bool.false_ne_true

theorem Literal.same_self {v : Literal} (hv : v.Finite) : v.same v = true := by
  match v with
  | .text _ => exact beq_self_eq_true _
  | .number _ => exact Number.equal_self hv

theorem Comparison.Spellable.of_same {c d : Comparison} (hc : c.Spellable)
    (h : c.same d = true) : d.Spellable := by
  simp only [Comparison.same, Bool.and_eq_true, beq_iff_eq] at h
  obtain ⟨⟨hoperator, hname⟩, hvalue⟩ := h
  exact ⟨hname ▸ hc.scan_name, hoperator ▸ hc.operator_mem, hc.quotable.of_same hvalue⟩

namespace Formula

variable {f g : Formula} {text : String} {maxDepth : Nat}

/-- The comparisons of equal formulas are equal one by one. -/
theorem exists_of_same (h : g.same f = true) {c : Comparison} (hc : c ∈ f.comparisons) :
    ∃ d ∈ g.comparisons, d.same c = true := by
  induction f generalizing g with
  | atom c' =>
      cases g with
      | atom d =>
          rw [comparisons_atom, List.mem_singleton] at hc
          exact ⟨d, by simp, hc ▸ h⟩
      | join => exact absurd h Bool.false_ne_true
  | join op left right ihl ihr =>
      cases g with
      | atom => exact absurd h Bool.false_ne_true
      | join op' left' right' =>
          simp only [same, Bool.and_eq_true] at h
          rw [comparisons_join, List.mem_append] at hc
          rcases hc with hc | hc
          · obtain ⟨d, hd, hsame⟩ := ihl h.1.2 hc
            exact ⟨d, by simp [hd], hsame⟩
          · obtain ⟨d, hd, hsame⟩ := ihr h.2 hc
            exact ⟨d, by simp [hd], hsame⟩

theorem same_self (h : ∀ c ∈ f.comparisons, c.value.Finite) : f.same f = true := by
  induction f with
  | atom c => simp [same, Comparison.same, Literal.same_self (h c (by simp))]
  | join op left right ihl ihr =>
      rw [comparisons_join] at h
      simp [same, ihl fun c hc => h c (List.mem_append_left _ hc),
        ihr fun c hc => h c (List.mem_append_right _ hc)]

/-! ## Texts that are read -/

/-- A token that looks like its kind can be read if it is a number. -/
theorem readable_of_lexical {token : Token} (h : Lexical token.kind token.lexeme.toList) :
    token.Readable := by
  intro hkind
  rw [hkind] at h
  simpa [Lexical] using h

/-- The numbers of a scan can be read. -/
theorem readable_of_mem_scan {token : Token} (h : token ∈ scan text) : token.Readable :=
  readable_of_lexical (lexical_of_mem_scan h)

/-- Reading a text is deriving its tokens and reading their numbers. -/
theorem ofText?_eq_ok_iff : ofText? text maxDepth = .ok f ↔
    Derives .expression maxDepth (scan text) f ∧ ∀ token ∈ scan text, token.Converts :=
  Parser.parse_eq_ok_iff

/-- A name, an equals sign and a text that is one literal are a comparison. -/
theorem ofText?_of_literal {name s : String} (hname : IsName name.toList) {token : Token}
    (hscan : scanFrom (name.length + 3) s.toList = [token]) (hliteral : token.kind.isLiteral = true)
    (hconverts : token.Converts) (maxDepth : Nat) :
    ofText? (name ++ " = " ++ s) maxDepth = .ok (.atom ⟨name, "=", token.literal⟩) := by
  rw [ofText?_eq_ok_iff, scan_equals hname, hscan]
  refine ⟨(Derives.comparison rfl rfl hliteral).chain_of_factor .or, ?_⟩
  simp [hconverts, converts_of_ne]

/-- If the literal is a number that is not read, then neither is the comparison. -/
theorem ofText?_of_read_error {name s : String} (hname : IsName name.toList) {token : Token}
    (hscan : scanFrom (name.length + 3) s.toList = [token]) (hnumber : token.kind = .number)
    {e : Number.ConversionError} (hread : Number.read token.lexeme = .error e) (maxDepth : Nat) :
    ofText? (name ++ " = " ++ s) maxDepth = .error (.number e) := by
  rw [ofText?, scan_equals hname, hscan]
  exact (Parser.Ends.unreadable rfl rfl hnumber hread).resume_eq

/-- What is cut out as a number is one token by itself. -/
theorem scanFrom_number {lexeme : String} (h : IsLexeme .number lexeme.toList) (position : Nat) :
    scanFrom position lexeme.toList = [⟨.number, lexeme, position⟩] := by
  rw [h.scanFrom_eq position, String.ofList_toList]

/-- A comparison with too many ones is not read. -/
theorem ofText?_ones {name : String} (hname : IsName name.toList) {k : Nat}
    (hk : Number.maxDigits < k) (maxDepth : Nat) :
    ofText? (name ++ " = " ++ String.ofList (List.replicate k '1')) maxDepth =
      .error (.number (.tooManyDigits k)) := by
  have hlexeme : IsLexeme .number (String.ofList (List.replicate k '1')).toList := by
    rw [String.toList_ofList]
    exact IsLexeme.numeral (Number.Numeral.ones k (Nat.ne_zero_of_lt hk))
  exact ofText?_of_read_error hname (scanFrom_number hlexeme _) rfl (Number.Numeral.read_ones hk)
    maxDepth

/-- No word, number or quoted text of a scan stands for a text with both sorts of quotes. -/
theorem quotable_of_mem_scan {token : Token} (h : token ∈ scan text)
    (hliteral : token.kind.isLiteral = true) : token.literal.Quotable := by
  have hlexical := lexical_of_mem_scan h
  cases hkind : token.kind with
  | name =>
      rw [hkind] at hlexical
      simp only [Token.literal, hkind]
      intro hquotes
      exact absurd (hlexical.isWordChar_of_mem _ hquotes.1) (by decide)
  | number =>
      obtain ⟨n, hn⟩ := Number.ofText?_of_isNumericText (readable_of_mem_scan h hkind)
      simp only [Token.literal, hkind, hn]
      trivial
  | quoted =>
      rw [hkind] at hlexical
      obtain ⟨quote, body, hquote, hbody, hlexeme⟩ := hlexical
      have hliteral : token.literal = .text (String.ofList body) := by
        simp [Token.literal, hkind, hlexeme]
      rw [hliteral]
      intro hquotes
      rw [String.toList_ofList] at hquotes
      rcases hquote with rfl | rfl
      · exact hbody hquotes.1
      · exact hbody hquotes.2
  | _ =>
      rw [hkind] at hliteral
      exact absurd hliteral Bool.false_ne_true

/-- A number that is read can be written. -/
theorem isWritable_literal {token : Token} (h : token.Converts) :
    token.literal.isWritable = true := by
  unfold Token.literal
  split
  · rfl
  · rename_i hkind
    obtain ⟨n, hn⟩ := h hkind
    rw [(Number.read_eq_ok_iff.mp hn).2]
    match n with
    | .int n => exact Number.isWritable_of_read hn
    | .double _ => rfl
  · rfl

/-- A formula that was read can be written. -/
theorem isWritable_of_ofText? (h : ofText? text maxDepth = .ok f) : f.isWritable = true := by
  obtain ⟨hderives, hconverts⟩ := ofText?_eq_ok_iff.mp h
  refine List.all_eq_true.mpr fun c hc => ?_
  obtain ⟨_, _, _, _, value, hvalue, _, _, _, rfl⟩ := hderives.exists_of_mem hc
  exact isWritable_literal (hconverts value hvalue)

/-- The comparisons of a formula that was read can be written. -/
theorem spellable_of_ofText? (h : ofText? text maxDepth = .ok f) :
    ∀ c ∈ f.comparisons, c.Spellable := by
  intro c hc
  obtain ⟨name, hname, sign, hsign, value, hvalue, hnameKind, hsignKind, hvalueKind, rfl⟩ :=
    (ofText?_eq_ok_iff.mp h).1.exists_of_mem hc
  have hword := lexical_of_mem_scan hname
  have hoperator := lexical_of_mem_scan hsign
  rw [hnameKind] at hword
  simp only [hsignKind, Lexical, String.ofList_toList] at hoperator
  exact ⟨(scan_eq_single_iff _).mpr hword, hoperator, quotable_of_mem_scan hvalue hvalueKind⟩

/-! ## Texts that are printed -/

/-- The characters that are printed for the formula, as a text. -/
def printed (f : Formula) : String := String.ofList (f.printOnto [])

theorem text_of_isWritable (h : f.isWritable = true) : f.text = .ok f.printed := if_pos h

theorem text_eq_ok_iff {s : String} : f.text = .ok s ↔ f.isWritable = true ∧ s = f.printed := by
  cases hwritable : f.isWritable with
  | true =>
      rw [text_of_isWritable hwritable]
      constructor
      · rintro ⟨⟩
        exact ⟨rfl, rfl⟩
      · rintro ⟨-, rfl⟩
        rfl
  | false =>
      rw [text, if_neg (by simp [hwritable])]
      constructor
      · rintro ⟨⟩
      · rintro ⟨⟨⟩, -⟩

/-- The tokens of the printed text of a formula whose comparisons can be written. -/
theorem shows_scan_printed (hspell : ∀ c ∈ f.comparisons, c.Spellable) :
    f.Shows .expression (scan f.printed) := by
  obtain ⟨tokens, position, hscan, hshows⟩ := scans_printOnto hspell [] boundary_nil 0
  have htokens : scan f.printed = tokens := by
    rw [scan, printed, String.toList_ofList, hscan, scanFrom, List.append_nil]
  rw [htokens]
  exact hshows.of_phrase f.groups_expression

/-- The printed groups are counted by `parentheses` and `nesting`. -/
theorem scan_printed_groups (hspell : ∀ c ∈ f.comparisons, c.Spellable) :
    openings (scan f.printed) = f.parentheses ∧ deepest 0 (scan f.printed) = f.nesting := by
  have hshows := shows_scan_printed hspell
  have hopenings := hshows.openings_eq
  have hdeepest := hshows.nested.deepest_eq
  rw [groups_expression] at hopenings hdeepest
  exact ⟨hopenings, hdeepest⟩

/-- Under a limit that the printed groups stay within, the printed text of a formula that can be
written reads back. -/
theorem ofText?_printed (hspell : ∀ c ∈ f.comparisons, c.Spellable)
    (hfinite : ∀ c ∈ f.comparisons, c.value.Finite) (hwritable : f.isWritable = true)
    (hnesting : f.nesting ≤ maxDepth) : ofText? f.printed maxDepth = .ok f := by
  have hshows := shows_scan_printed hspell
  have hderives := hshows.derives hfinite
  rw [groups_expression] at hderives
  exact ofText?_eq_ok_iff.mpr ⟨hderives.mono hnesting, hshows.converts hwritable⟩

/-- The formula has a text, which reads back, within the limit, to an equal formula. -/
def Rereads (f : Formula) (maxDepth : Nat) : Prop :=
  ∃ s g, f.text = .ok s ∧ ofText? s maxDepth = .ok g ∧ g.same f = true

/-- A formula that reads back has been written, and the printed text has been read. -/
theorem Rereads.exists_read (h : f.Rereads maxDepth) :
    f.isWritable = true ∧ ∃ g, ofText? f.printed maxDepth = .ok g ∧ g.same f = true := by
  obtain ⟨s, g, htext, hread, hsame⟩ := h
  obtain ⟨hwritable, rfl⟩ := text_eq_ok_iff.mp htext
  exact ⟨hwritable, g, hread, hsame⟩

/-- A formula that reads back was spellable: what is read is, and the two are equal. -/
theorem Rereads.spellable (h : f.Rereads maxDepth) : ∀ c ∈ f.comparisons, c.Spellable := by
  obtain ⟨-, g, hread, hsame⟩ := h.exists_read
  intro c hc
  obtain ⟨d, hd, hequal⟩ := exists_of_same hsame hc
  exact (spellable_of_ofText? hread d hd).of_same hequal

/-- A formula that reads back has finite numbers: no token of its text stands for another. -/
theorem Rereads.finite (h : f.Rereads maxDepth) : ∀ c ∈ f.comparisons, c.value.Finite := by
  have hshows := shows_scan_printed h.spellable
  obtain ⟨-, g, hread, hsame⟩ := h.exists_read
  intro c hc
  -- the value that was read is one token of the printed text, and equal to the one printed
  obtain ⟨d, hd, hequal⟩ := exists_of_same hsame hc
  obtain ⟨_, _, _, _, value, hvalue, _, _, _, rfl⟩ :=
    (ofText?_eq_ok_iff.mp hread).1.exists_of_mem hd
  simp only [Comparison.same, Bool.and_eq_true] at hequal
  exact (hshows.finite value hvalue).of_same hequal.2

/-- A formula that reads back is printed within the limit. -/
theorem Rereads.nesting_le (h : f.Rereads maxDepth) : f.nesting ≤ maxDepth := by
  have hgroups := scan_printed_groups h.spellable
  obtain ⟨-, g, hread, -⟩ := h.exists_read
  -- the derivation nests the tokens no deeper than the limit, and they are those of the printer
  obtain ⟨-, level, hlevel, hnested, -⟩ := (ofText?_eq_ok_iff.mp hread).1.parentheses_le
  rw [← hgroups.2, hnested.deepest_eq]
  exact hlevel

/-- A formula that its printed text gives back reads back. -/
theorem rereads_of_printed (hfinite : ∀ c ∈ f.comparisons, c.value.Finite)
    (hwritable : f.isWritable = true) (hread : ofText? f.printed maxDepth = .ok f) :
    f.Rereads maxDepth :=
  ⟨_, f, text_of_isWritable hwritable, hread, same_self hfinite⟩

/-! ## Main results -/

/-- A formula can be written if none of its integers has too many digits. -/
theorem isWritable_iff : f.isWritable = true ↔
    ∀ c ∈ f.comparisons, ∀ n, c.value = .number (.int n) → n.natAbs < 10 ^ Number.maxDigits := by
  have hliteral (v : Literal) : v.isWritable = true ↔
      ∀ n, v = .number (.int n) → n.natAbs < 10 ^ Number.maxDigits := by
    match v with
    | .text _ => simp [Literal.isWritable]
    | .number (.double _) => simp [Literal.isWritable]
    | .number (.int n) =>
        rw [Literal.isWritable, Number.isWritable_iff]
        constructor
        · rintro h m ⟨⟩
          exact h
        · exact fun h => h n rfl
  rw [isWritable, List.all_eq_true]
  exact forall₂_congr fun c _ => hliteral c.value

/-- **Which formulas read back.** A formula reads back from its own text, within a limit on the
depth of groups, exactly when

* every name is one word to the scanner, every operator is a comparison sign, and every value
  is a number between the infinities or a text without quotes of both sorts;
* no integer has too many digits to be written: a formula with such an integer has no text;
* the parentheses that are printed nest within the limit.

What is read is then the formula itself. -/
theorem rereads_iff (f : Formula) (maxDepth : Nat) :
    (f.Rereads maxDepth ↔
      (∀ c ∈ f.comparisons, c.Spellable ∧ c.value.Finite ∧
        ∀ n, c.value = .number (.int n) → n.natAbs < 10 ^ Number.maxDigits) ∧
      f.nesting ≤ maxDepth) ∧
    (f.Rereads maxDepth → ∃ s, f.text = .ok s ∧ ofText? s maxDepth = .ok f) ∧
    ∀ c ∈ f.comparisons, ∀ n, c.value = .number (.int n) → 10 ^ Number.maxDigits ≤ n.natAbs →
      f.text = .error .tooLong := by
  refine ⟨⟨fun h => ⟨fun c hc => ?_, h.nesting_le⟩, ?_⟩, fun h => ?_, ?_⟩
  · exact ⟨h.spellable c hc, h.finite c hc, isWritable_iff.mp h.exists_read.1 c hc⟩
  · rintro ⟨hcomparisons, hnesting⟩
    have hfinite : ∀ c ∈ f.comparisons, c.value.Finite := fun c hc => (hcomparisons c hc).2.1
    have hwritable := isWritable_iff.mpr fun c hc => (hcomparisons c hc).2.2
    exact rereads_of_printed hfinite hwritable
      (ofText?_printed (fun c hc => (hcomparisons c hc).1) hfinite hwritable hnesting)
  · have hwritable := h.exists_read.1
    exact ⟨_, text_of_isWritable hwritable,
      ofText?_printed h.spellable h.finite hwritable h.nesting_le⟩
  · intro c hc n hn hlarge
    exact if_neg fun hwritable => Nat.not_lt.mpr hlarge (isWritable_iff.mp hwritable c hc n hn)

/-- A formula with an integer of too many digits has no text, though it meets everything else. -/
theorem not_rereads_of_long_integer :
    let c : Comparison := ⟨"a", "=", .number (.int (10 ^ Number.maxDigits : Nat))⟩
    c.Spellable ∧ c.value.Finite ∧ (Formula.atom c).nesting = 0 ∧
      (Formula.atom c).text = .error .tooLong ∧ ¬ (Formula.atom c).Rereads 64 := by
  intro c
  have hname : IsName "a".toList := ⟨by simp, List.all_eq_true.mp (by decide), by decide +kernel⟩
  have hlong : (Formula.atom c).text = .error .tooLong := by
    refine if_neg fun hwritable => ?_
    have hsmall := isWritable_iff.mp hwritable c (by simp) _ rfl
    rw [Int.natAbs_natCast] at hsmall
    exact Nat.lt_irrefl _ hsmall
  refine ⟨⟨(scan_eq_single_iff _).mpr hname, by simp [c, signs], trivial⟩, rfl, rfl, hlong, ?_⟩
  rintro ⟨s, g, htext, -⟩
  cases hlong.symm.trans htext

/-- **When reading, printing and reading again gives the same.** A formula that was read from a
text has a text, and it reads back under the same limit exactly when all its numbers are finite.
Depth is never in the way, and the formula that is read is then the formula itself. -/
theorem rereads_of_read_iff {text : String} {maxDepth : Nat} {f : Formula}
    (h : ofText? text maxDepth = .ok f) :
    ∃ s, f.text = .ok s ∧
      (f.Rereads maxDepth ↔ ∀ c ∈ f.comparisons, c.value.Finite) ∧
      (f.Rereads maxDepth → ofText? s maxDepth = .ok f) := by
  have hwritable := isWritable_of_ofText? h
  have hself : (∀ c ∈ f.comparisons, c.value.Finite) → ofText? f.printed maxDepth = .ok f := by
    intro hfinite
    obtain ⟨-, level, hlevel, -, hnesting⟩ := (ofText?_eq_ok_iff.mp h).1.parentheses_le
    exact ofText?_printed (spellable_of_ofText? h) hfinite hwritable
      (Nat.le_trans (Nat.le_add_right _ _) (Nat.le_trans hnesting hlevel))
  refine ⟨_, text_of_isWritable hwritable, ⟨Rereads.finite, fun hfinite => ?_⟩, fun hrereads => ?_⟩
  · exact rereads_of_printed hfinite hwritable (hself hfinite)
  · exact hself hrereads.finite

/-- One of the two groups is needless, one text is not in quotes and one has a quote in it. -/
theorem rereads_of_read_iff_of_chain :
    let f : Formula :=
      .join .and (.join .or (.atom ⟨"a", "=", .number (.int 1)⟩) (.atom ⟨"b", "<>", .text "it's"⟩))
        (.atom ⟨"c", "<", .text "x"⟩)
    ofText? "((a = 1) OR b <> \"it's\") AND c < x" 2 = .ok f ∧ f.Rereads 2 := by
  intro f
  have hscan : scan "((a = 1) OR b <> \"it's\") AND c < x" =
      [⟨.opening, "(", 0⟩, ⟨.opening, "(", 1⟩, ⟨.name, "a", 2⟩, ⟨.comparison, "=", 4⟩,
        ⟨.number, "1", 6⟩, ⟨.closing, ")", 7⟩, ⟨.connective .or, "OR", 9⟩, ⟨.name, "b", 12⟩,
        ⟨.comparison, "<>", 14⟩, ⟨.quoted, "\"it's\"", 17⟩, ⟨.closing, ")", 23⟩,
        ⟨.connective .and, "AND", 25⟩, ⟨.name, "c", 29⟩, ⟨.comparison, "<", 31⟩,
        ⟨.name, "x", 33⟩] := by decide +kernel
  have hread : ofText? "((a = 1) OR b <> \"it's\") AND c < x" 2 = .ok f := by
    rw [ofText?, hscan]
    rfl
  obtain ⟨-, -, hrereads, -⟩ := rereads_of_read_iff hread
  refine ⟨hread, hrereads.mpr ?_⟩
  simp [f, Literal.Finite, Number.isFinite]

/-- A number too large for a double is read as an infinity. The text of the formula is then cut
into a word and a zero, and does not read back. -/
theorem not_rereads_of_overflow :
    let f : Formula := .atom ⟨"a", "=", .number (.double (.infinity false))⟩
    ofText? "a = 1e999" 64 = .ok f ∧ f.text = .ok "a = Infinity.0" ∧ ¬ f.Rereads 64 := by
  intro f
  have hscan : scan "a = 1e999" =
      [⟨.name, "a", 0⟩, ⟨.comparison, "=", 2⟩, ⟨.number, "1e999", 4⟩] := by decide +kernel
  have hread : Number.read "1e999" = .ok (.double (.infinity false)) := by decide +kernel
  have hnumber := (Number.read_eq_ok_iff.mp hread).2
  have hf : f = .atom (Token.comparison ⟨.name, "a", 0⟩ ⟨.comparison, "=", 2⟩
      ⟨.number, "1e999", 4⟩) := by
    simp [f, Token.comparison, Token.literal, hnumber]
  refine ⟨?_, by decide +kernel, ?_⟩
  · rw [ofText?_eq_ok_iff, hscan, hf]
    refine ⟨(Derives.comparison rfl rfl rfl).chain_of_factor .or, ?_⟩
    simp [Token.Converts, hread]
  · intro hrereads
    have hfinite := hrereads.finite ⟨"a", "=", .number (.double (.infinity false))⟩ (by simp [f])
    exact absurd hfinite Bool.false_ne_true

/-- **The printer writes no needless parentheses.** Whatever text a formula was read from, it has a
printed text, which opens no more groups than that text and nests them no deeper. -/
theorem parentheses_of_read_le {text : String} {maxDepth : Nat} {f : Formula}
    (h : ofText? text maxDepth = .ok f) :
    ∃ s, f.text = .ok s ∧ openings (scan s) ≤ openings (scan text) ∧
      deepest 0 (scan s) ≤ deepest 0 (scan text) := by
  obtain ⟨hopenings, hdeepest⟩ := scan_printed_groups (spellable_of_ofText? h)
  obtain ⟨hcount, level, -, hnested, hdeep⟩ := (ofText?_eq_ok_iff.mp h).1.parentheses_le
  refine ⟨_, text_of_isWritable (isWritable_of_ofText? h), ?_⟩
  rw [hopenings, hdeepest, hnested.deepest_eq]
  exact ⟨Nat.le_trans (Nat.le_add_right _ _) hcount, Nat.le_trans (Nat.le_add_right _ _) hdeep⟩

/-- Of three groups, two of them around nothing that needs one, the printer keeps one. -/
theorem parentheses_of_read_le_of_redundant :
    let text := "((a = 1 OR b = x)) AND (c = 2)"
    let f : Formula :=
      .join .and (.join .or (.atom ⟨"a", "=", .number (.int 1)⟩) (.atom ⟨"b", "=", .text "x"⟩))
        (.atom ⟨"c", "=", .number (.int 2)⟩)
    ofText? text 2 = .ok f ∧
      ∃ s, f.text = .ok s ∧ openings (scan s) ≤ 3 ∧ deepest 0 (scan s) ≤ 2 := by
  intro text f
  have hscan : scan text =
      [⟨.opening, "(", 0⟩, ⟨.opening, "(", 1⟩, ⟨.name, "a", 2⟩, ⟨.comparison, "=", 4⟩,
        ⟨.number, "1", 6⟩, ⟨.connective .or, "OR", 8⟩, ⟨.name, "b", 11⟩, ⟨.comparison, "=", 13⟩,
        ⟨.name, "x", 15⟩, ⟨.closing, ")", 16⟩, ⟨.closing, ")", 17⟩,
        ⟨.connective .and, "AND", 19⟩, ⟨.opening, "(", 23⟩, ⟨.name, "c", 24⟩,
        ⟨.comparison, "=", 26⟩, ⟨.number, "2", 28⟩, ⟨.closing, ")", 29⟩] := by decide +kernel
  have hread : ofText? text 2 = .ok f := by
    rw [ofText?, hscan]
    rfl
  have hle := parentheses_of_read_le hread
  rw [hscan] at hle
  exact ⟨hread, hle⟩

end Formula

end Eligibility

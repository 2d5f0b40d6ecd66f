import Eligibility.Proofs.Rule.Concatenation
import Eligibility.Proofs.Rule.RoundTrip
import Eligibility.Rule.Combination

/-!
# Rules joined as texts

Rules can be combined as formulas, or their texts can be put in parentheses and joined by the
keyword of the connective. Both ways lead to the same formula, if one more level of groups is
allowed and no text has a quote that would reach over its own end (`ofText?_joinTexts`).

A text in parentheses is a factor (`scans_grouped`), and one more factor carries a chain on
(`Scans.link`), so the tokens of the joined text are a chain by induction on the list of texts.
-/

namespace Eligibility

open Token

/-- The tokens derive the formula, and their numbers are read. -/
structure Reads (phrase : Phrase) (depth : Nat) (tokens : List Token) (f : Formula) : Prop where
  derives : Derives phrase depth tokens f
  converts : ∀ token ∈ tokens, token.Converts

namespace Reads

variable {depth : Nat} {tokens more : List Token} {f g : Formula}

theorem of_factor (h : Reads .factor depth tokens f) (phrase : Phrase) :
    Reads phrase depth tokens f :=
  ⟨h.derives.of_factor phrase, h.converts⟩

theorem link {op : Connective} (h : Reads (.chain op) depth tokens f) {keyword : Token}
    (hkeyword : keyword.kind = .connective op) (hpart : Reads (.part op) depth more g) :
    Reads (.chain op) depth (tokens ++ keyword :: more) (.join op f g) := by
  refine ⟨h.derives.link hkeyword hpart.derives, fun token htoken => ?_⟩
  rcases List.mem_append.mp htoken with htoken | htoken
  · exact h.converts token htoken
  · rcases List.mem_cons.mp htoken with rfl | htoken
    · exact converts_of_ne (by simp [hkeyword])
    · exact hpart.converts token htoken

theorem group (h : Reads .expression depth tokens f) {opening closing : Token}
    (hopening : opening.kind = .opening) (hclosing : closing.kind = .closing) :
    Reads .factor (depth + 1) (opening :: (tokens ++ [closing])) f := by
  refine ⟨.group hopening h.derives hclosing, fun token htoken => ?_⟩
  simp only [List.mem_cons, List.mem_append, List.not_mem_nil, or_false] at htoken
  rcases htoken with rfl | htoken | rfl
  · exact converts_of_ne (by simp [hopening])
  · exact h.converts token htoken
  · exact converts_of_ne (by simp [hclosing])

/-- Where tokens stand says nothing about what they are read as. -/
theorem moved {phrase : Phrase} (h : Reads phrase depth tokens f) (distance : Nat) :
    Reads phrase depth (tokens.map (Token.moved distance)) f :=
  ⟨h.derives.moved distance, List.forall_mem_map.mpr h.converts⟩

end Reads

theorem Scans.mono {print : List Char → List Char} {Expected Expected' : List Token → Prop}
    (h : Scans print Expected) (himp : ∀ tokens, Expected tokens → Expected' tokens) :
    Scans print Expected' := by
  intro rest hrest position
  obtain ⟨tokens, position', hscan, hexpected⟩ := h rest hrest position
  exact ⟨tokens, position', hscan, himp tokens hexpected⟩

/-- What is printed as a chain, the keyword and what is printed as one more part scan to a longer
chain. -/
theorem Scans.link {op : Connective} {depth : Nat} {f g : Formula}
    {print printPart : List Char → List Char} (h : Scans print (Reads (.chain op) depth · f))
    (hpart : Scans printPart (Reads (.part op) depth · g)) :
    Scans (fun rest => print (' ' :: (op.keyword.toList ++ ' ' :: printPart rest)))
      (Reads (.chain op) depth · (.join op f g)) := by
  intro rest hrest position
  obtain ⟨front, position', hfront, hreads⟩ := h _ (boundary_blank _) position
  have hkeyword := lexeme?_keyword op (boundary_blank (printPart rest))
  obtain ⟨back, position'', hback, hmore⟩ := hpart rest hrest _
  rw [scanFrom_skip (lexeme?_blank _), scanFrom_lexeme hkeyword, scanFrom_skip (lexeme?_blank _),
    hback, String.ofList_toList] at hfront
  refine ⟨front ++ ⟨.connective op, op.keyword, position' + 1⟩ :: back, position'', ?_,
    hreads.link rfl hmore⟩
  rw [List.append_assoc]
  exact hfront

namespace Formula

variable {op : Connective} {depth : Nat}

/-- A rule text in parentheses is a factor, one level deeper than the text. -/
theorem scans_grouped {text : String} {f : Formula} (hread : ofText? text depth = .ok f)
    (hquotes : ClosesQuotes text) :
    Scans (fun rest => '(' :: (text.toList ++ ')' :: rest)) (Reads .factor (depth + 1) · f) := by
  intro rest _ position
  -- behind the parenthesis the text has the tokens that it has alone, only further on
  have hinner : Reads .expression depth (scanFrom (position + 1) text.toList) f := by
    obtain ⟨hderives, hconverts⟩ := ofText?_eq_ok_iff.mp hread
    rw [← Nat.zero_add (position + 1), scanFrom_add]
    exact Reads.moved ⟨hderives, hconverts⟩ (position + 1)
  have hopening : scanFrom position (['('] ++ (text.toList ++ ')' :: rest)) = _ :=
    scanFrom_lexeme (lexeme?_opening _) position
  have hclosing : scanFrom (position + 1 + text.toList.length) ([')'] ++ rest) = _ :=
    scanFrom_lexeme (lexeme?_closing rest) _
  rw [List.length_singleton, scanFrom_append (boundary_closing rest) (hquotes.from _)] at hopening
  rw [List.singleton_append] at hclosing
  rw [hclosing, List.append_cons (scanFrom _ _)] at hopening
  refine ⟨⟨.opening, String.ofList ['('], position⟩ :: (scanFrom (position + 1) text.toList ++
    [⟨.closing, String.ofList [')'], position + 1 + text.toList.length⟩]),
    position + 1 + text.toList.length + 1, ?_, hinner.group rfl rfl⟩
  exact hopening

/-- The text that joins rule texts, each in parentheses, by the keyword of a connective. -/
def joinTexts (op : Connective) (texts : List String) : String :=
  (" " ++ op.keyword ++ " ").intercalate (texts.map fun text => "(" ++ text ++ ")")

/-- One more rule text behind others: the keyword, and the text in parentheses. -/
def linkChars (op : Connective) (text : String) : List Char :=
  ' ' :: (op.keyword.toList ++ ' ' :: '(' :: (text.toList ++ [')']))

theorem toList_joinTexts (op : Connective) (text : String) (texts : List String) :
    (joinTexts op (text :: texts)).toList =
      '(' :: (text.toList ++ ')' :: texts.flatMap (linkChars op)) := by
  induction texts generalizing text with
  | nil => simp [joinTexts]
  | cons next texts ih =>
      have hnext := ih next
      simp only [joinTexts, List.map_cons] at hnext ⊢
      rw [String.intercalate_cons_cons, String.toList_append, hnext]
      simp [linkChars]

/-- Factors behind a chain carry it on, one after the other. -/
theorem scans_links {print : List Char → List Char} {f : Formula}
    (h : Scans print (Reads (.chain op) (depth + 1) · f)) {texts : List String}
    {formulas : List Formula}
    (hread : texts.map (fun text => ofText? text depth) = formulas.map .ok)
    (hquotes : ∀ text ∈ texts, ClosesQuotes text) :
    Scans (fun rest => print (texts.flatMap (linkChars op) ++ rest))
      (Reads (.chain op) (depth + 1) · (joinAll op f formulas)) := by
  induction texts generalizing print f formulas with
  | nil =>
      obtain rfl : formulas = [] := by simpa using hread.symm
      exact h
  | cons text texts ih =>
      obtain ⟨g, formulas, rfl, hg, hrest⟩ := List.map_eq_cons_iff.mp hread.symm
      have hfactor := scans_grouped hg.symm (hquotes text List.mem_cons_self)
      have hlink := h.link (hfactor.mono fun _ hreads => hreads.of_factor (.part op))
      have hnext := ih hlink hrest.symm fun t ht => hquotes t (List.mem_cons_of_mem _ ht)
      have hprint : ∀ rest, (text :: texts).flatMap (linkChars op) ++ rest =
          ' ' :: (op.keyword.toList ++ ' ' :: '(' :: (text.toList ++ ')' ::
            (texts.flatMap (linkChars op) ++ rest))) := by
        intro rest
        simp [linkChars]
      simp only [hprint]
      exact hnext

/-- **Combining rules as texts is combining them as formulas.** Of rule texts that are read within
a limit and leave no quote outside their tokens, the texts in parentheses, joined by a keyword,
are read one level deeper as the combination of the formulas under that connective. -/
theorem ofText?_joinTexts (op : Connective) {texts : List String} {formulas : List Formula}
    (hne : texts ≠ [])
    (hread : texts.map (fun text => ofText? text depth) = formulas.map .ok)
    (hquotes : ∀ text ∈ texts, ClosesQuotes text) :
    ∃ f, combine (.text op.keyword) formulas = .ok f ∧
      ofText? (joinTexts op texts) (depth + 1) = .ok f := by
  obtain ⟨text, texts, rfl⟩ := List.exists_cons_of_ne_nil hne
  obtain ⟨first, formulas, rfl, hfirst, hrest⟩ := List.map_eq_cons_iff.mp hread.symm
  refine ⟨joinAll op first formulas, combine_keyword op first formulas, ?_⟩
  have hfactor := scans_grouped hfirst.symm (hquotes text List.mem_cons_self)
  have hbegin := hfactor.mono fun _ hreads => hreads.of_factor (.chain op)
  have hchain := scans_links hbegin hrest.symm fun t ht => hquotes t (List.mem_cons_of_mem _ ht)
  obtain ⟨tokens, position, hscan, hderives, hconverts⟩ := hchain [] boundary_nil 0
  have htokens : scan (joinTexts op (text :: texts)) = tokens := by
    rw [scan, toList_joinTexts]
    simpa [scanFrom] using hscan
  rw [ofText?_eq_ok_iff, htokens]
  cases op with
  | and => exact ⟨.single hderives, hconverts⟩
  | or => exact ⟨hderives, hconverts⟩

/-- One text has a parenthesis in quotes and the other a quote in quotes of the other sort. -/
theorem ofText?_joinTexts_of_quotes :
    let f : Formula := .atom ⟨"a", "=", .text "x) OR (y"⟩
    let g : Formula :=
      .join .or (.atom ⟨"b", "<>", .text "it's"⟩) (.atom ⟨"c", "<", .number (.int (-2))⟩)
    (∀ text ∈ ["a = 'x) OR (y'", "b <> \"it's\" OR c < -2"], ClosesQuotes text) ∧
      joinTexts .and ["a = 'x) OR (y'", "b <> \"it's\" OR c < -2"] =
        "(a = 'x) OR (y') AND (b <> \"it's\" OR c < -2)" ∧
      ofText? (joinTexts .and ["a = 'x) OR (y'", "b <> \"it's\" OR c < -2"]) 1 =
        .ok (.join .and f g) := by
  intro f g
  have hscan : scan "a = 'x) OR (y'" =
      [⟨.name, "a", 0⟩, ⟨.comparison, "=", 2⟩, ⟨.quoted, "'x) OR (y'", 4⟩] := by decide +kernel
  have hscan' : scan "b <> \"it's\" OR c < -2" =
      [⟨.name, "b", 0⟩, ⟨.comparison, "<>", 2⟩, ⟨.quoted, "\"it's\"", 5⟩,
        ⟨.connective .or, "OR", 12⟩, ⟨.name, "c", 15⟩, ⟨.comparison, "<", 17⟩,
        ⟨.number, "-2", 19⟩] := by decide +kernel
  have hquotes : ∀ text ∈ ["a = 'x) OR (y'", "b <> \"it's\" OR c < -2"], ClosesQuotes text := by
    decide +kernel
  have hread : ["a = 'x) OR (y'", "b <> \"it's\" OR c < -2"].map (fun text => ofText? text 0) =
      [f, g].map .ok := by
    simp only [List.map_cons, List.map_nil, ofText?, hscan, hscan']
    rfl
  obtain ⟨h, hcombine, hjoined⟩ := ofText?_joinTexts .and (by simp) hread hquotes
  have hcombined : combine (.text "AND") [f, g] = .ok (.join .and f g) := rfl
  obtain rfl : Formula.join .and f g = h := Except.ok.inj (hcombined.symm.trans hcombine)
  exact ⟨hquotes, by decide, hjoined⟩

end Formula

end Eligibility

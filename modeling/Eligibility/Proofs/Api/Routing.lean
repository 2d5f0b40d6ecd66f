import Eligibility.Proofs.Api.Serving

/-!
# Where requests lead

A template without braces fits its own text and no other one (`parts?_letters`). If the common
beginning of the paths has no braces, all routes but one are of this kind, and the remaining one has
a single parameter, which takes a segment. So a request that is posted to the path of a rule reaches
the evaluation of this rule (`reached?_evaluateRule`), and one posted to the path for formulas that
are not stored reaches their evaluation (`reached?_evaluateDocument`). A segment has no slash, so
each route takes paths with a certain number of slashes, and a path with more slashes than the
routes have leads nowhere (`destination_of_deep`).
-/

namespace Eligibility

/-- The text has no opening brace, so it stands for itself in a template. -/
def Template.IsPlain (cs : List Char) : Prop := '\x7b' ∉ cs

instance (cs : List Char) : Decidable (Template.IsPlain cs) := inferInstanceAs (Decidable (_ ∉ cs))

namespace Template

variable {cs rest : List Char}

/-- The template that stands for some characters. -/
def letters (cs : List Char) : Template := cs.map .letter

theorem isPlain_cons {c : Char} : IsPlain (c :: cs) ↔ c ≠ '\x7b' ∧ IsPlain cs := by
  simp [IsPlain, eq_comm]

theorem isPlain_append : IsPlain (cs ++ rest) ↔ IsPlain cs ∧ IsPlain rest := by
  simp [IsPlain]

theorem pieces_append (h : IsPlain cs) (rest : List Char) :
    pieces 0 (cs ++ rest) = letters cs ++ pieces 0 rest := by
  induction cs with
  | nil => rfl
  | cons c cs ih =>
      obtain ⟨hc, hcs⟩ := isPlain_cons.mp h
      rw [List.cons_append, pieces, if_neg hc, ih hcs]
      rfl

theorem ofText_of_plain {s : String} (h : IsPlain s.toList) : ofText s = letters s.toList := by
  have hpieces := pieces_append h []
  rw [List.append_nil] at hpieces
  rw [ofText, hpieces]
  exact List.append_nil _

theorem parts?_letters_append (cs rest : List Char) (t : Template) :
    parts? (letters cs ++ t) (cs ++ rest) = parts? t rest := by
  induction cs with
  | nil => rfl
  | cons c cs ih =>
      show (if c = c then parts? (letters cs ++ t) (cs ++ rest) else none) = _
      rw [if_pos rfl, ih]

/-- Letters fit their own text only. -/
theorem parts?_letters (cs text : List Char) :
    parts? (letters cs) text = if text = cs then some [] else none := by
  induction cs generalizing text with
  | nil => cases text <;> rfl
  | cons c cs ih =>
      cases text with
      | nil => rfl
      | cons d text =>
          show (if c = d then parts? (letters cs) text else none) = _
          rw [ih]
          by_cases hd : c = d <;> simp [hd, eq_comm]

/-- A parameter for a segment takes all up to the next slash. -/
theorem parts?_segment (name : String) {segment : List Char} {t : Template} {parts : Parts}
    (hne : segment ≠ []) (hsegment : '/' ∉ segment) (hrest : parts? t ('/' :: rest) = some parts) :
    parts? (.parameter name PartKind.segment.word :: t) (segment ++ '/' :: rest) =
      some ((name, String.ofList segment) :: parts) := by
  have hkind : PartKind.ofWord? PartKind.segment.word = some .segment := by decide
  have hlongest : (segment ++ '/' :: rest).takeWhile PartKind.segment.mayHold = segment := by
    rw [List.takeWhile_append_of_pos]
    · simp [PartKind.mayHold]
    · intro c hc
      have hslash : c ≠ '/' := fun h => hsegment (h ▸ hc)
      simpa [PartKind.mayHold] using hslash
  have hform : PartKind.segment.hasForm segment = true := by
    simpa [PartKind.hasForm] using hne
  rw [parts?, hkind]
  simp only [hlongest, List.range_succ, List.reverse_append, List.reverse_singleton,
    List.singleton_append, List.findSome?_cons, List.take_left, List.drop_left, hform, if_true,
    hrest, Option.map_some]

/-! ## Slashes -/

/-- The number of slashes that a template has outside of its parameters. -/
def slashes (t : Template) : Nat := t.count (.letter '/')

/-- Each parameter of the template takes a segment. -/
def TakesSegments (t : Template) : Prop :=
  ∀ name word, .parameter name word ∈ t → word = PartKind.segment.word

theorem takesSegments_cons {piece : TemplatePiece} {t : Template} (h : TakesSegments (piece :: t)) :
    TakesSegments t := fun name word hmem => h name word (List.mem_cons_of_mem piece hmem)

theorem slashes_letter (a : Char) (t : Template) :
    slashes (.letter a :: t) = slashes t + if a == '/' then 1 else 0 := by
  rw [slashes, List.count_cons]
  by_cases ha : a = '/' <;> simp [ha, slashes]

theorem slashes_letters_append (cs : List Char) (t : Template) :
    slashes (letters cs ++ t) = cs.count '/' + slashes t := by
  induction cs with
  | nil => exact (Nat.zero_add _).symm
  | cons c cs ih =>
      show slashes (.letter c :: (letters cs ++ t)) = _
      rw [slashes_letter, ih, List.count_cons]
      omega

theorem slashes_letters (cs : List Char) : slashes (letters cs) = cs.count '/' := by
  have h := slashes_letters_append cs []
  rw [List.append_nil] at h
  exact h

theorem takesSegments_letters_append {t : Template} (h : TakesSegments t) (cs : List Char) :
    TakesSegments (letters cs ++ t) := by
  intro name word hmem
  rcases List.mem_append.mp hmem with hletter | hmem
  · obtain ⟨c, -, heq⟩ := List.mem_map.mp hletter
    cases heq
  · exact h name word hmem

theorem takesSegments_letters (cs : List Char) : TakesSegments (letters cs) := by
  have hnil : TakesSegments [] := fun _ _ hmem => absurd hmem List.not_mem_nil
  have h := takesSegments_letters_append hnil cs
  rwa [List.append_nil] at h

/-- The beginning of a text that a segment takes has no slash. -/
theorem not_mem_take_segment {size : Nat}
    (h : size ≤ (cs.takeWhile PartKind.segment.mayHold).length) : '/' ∉ cs.take size := by
  intro hmem
  obtain ⟨rest, hrest⟩ := List.takeWhile_prefix PartKind.segment.mayHold (l := cs)
  rw [← hrest, List.take_append_of_le_length h] at hmem
  have hheld := List.all_eq_true.mp List.all_takeWhile _ (List.mem_of_mem_take hmem)
  exact absurd hheld (by decide)

/-- A text that a template of segments fits has the slashes of the template and no others. -/
theorem count_slash_of_parts? {t : Template} {parts : Parts} (h : TakesSegments t)
    (hparts : parts? t cs = some parts) : cs.count '/' = slashes t := by
  induction t generalizing cs parts with
  | nil =>
      cases cs with
      | nil => rfl
      | cons c cs => exact nomatch hparts
  | cons piece t ih =>
      have hrest {cs : List Char} {parts : Parts} (hparts : parts? t cs = some parts) :
          cs.count '/' = slashes t := ih (takesSegments_cons h) hparts
      cases piece with
      | letter a =>
          cases cs with
          | nil => cases hparts
          | cons c cs =>
              rw [parts?] at hparts
              split at hparts
              · rename_i heq
                subst heq
                rw [List.count_cons, hrest hparts, slashes_letter]
              · cases hparts
      | parameter name word =>
          obtain rfl := h name word List.mem_cons_self
          obtain ⟨size, hsize, hfits⟩ := List.exists_of_findSome?_eq_some hparts
          have htaken : (cs.take size).count '/' = 0 := by
            refine List.count_eq_zero.mpr (not_mem_take_segment ?_)
            have hrange := List.mem_range.mp (List.mem_reverse.mp hsize)
            omega
          have hdropped : (cs.drop size).count '/' = slashes t := by
            split at hfits
            · obtain ⟨rest, hparts', -⟩ := Option.map_eq_some_iff.mp hfits
              exact hrest hparts'
            · cases hfits
          rw [← List.take_append_drop size cs, List.count_append, htaken, hdropped, Nat.zero_add]
          rfl

theorem bracedTexts_append (h : IsPlain cs) (rest : List Char) :
    bracedTexts 0 (cs ++ rest) = bracedTexts 0 rest := by
  induction cs with
  | nil => rfl
  | cons c cs ih =>
      obtain ⟨hc, hcs⟩ := isPlain_cons.mp h
      rw [List.cons_append, bracedTexts, if_neg hc, ih hcs]

theorem withoutKinds_letters_append (cs : List Char) (t : Template) :
    withoutKinds (letters cs ++ t) = cs ++ withoutKinds t := by
  induction cs with
  | nil => rfl
  | cons c cs ih => exact congrArg (c :: ·) ih

theorem names_letters_append (cs : List Char) (t : Template) :
    names (letters cs ++ t) = names t := by
  induction cs with
  | nil => rfl
  | cons c cs ih => exact ih

theorem unknownKinds_letters_append (cs : List Char) (t : Template) :
    unknownKinds (letters cs ++ t) = unknownKinds t := by
  induction cs with
  | nil => rfl
  | cons c cs ih => exact ih

end Template

namespace Route

variable {route : Route} {routes rest : List Route} {method path : String} {e : Endpoint}

/-! ## Routes that are tried one after the other -/

theorem endpoint?_cons_of_none (h : route.matches? path.toList = none) :
    endpoint? (route :: routes) method path = endpoint? routes method path := by
  unfold endpoint? known
  rw [List.filterMap_cons, h]
  rfl

theorem endpoint?_cons_of_not_mem (h : method ∉ route.methods) :
    endpoint? (route :: routes) method path = endpoint? routes method path := by
  cases hmatches : route.matches? path.toList with
  | none => exact endpoint?_cons_of_none hmatches
  | some e =>
      unfold endpoint? known
      rw [List.filterMap_cons, hmatches]
      simp [h]

theorem endpoint?_cons_of_some (h : route.matches? path.toList = some e)
    (hmethod : method ∈ route.methods) : endpoint? (route :: routes) method path = some e := by
  unfold endpoint? known
  rw [List.filterMap_cons, h]
  simp [hmethod]

theorem endpoint?_append (h : ∀ route ∈ routes, method ∉ route.methods) :
    endpoint? (routes ++ rest) method path = endpoint? rest method path := by
  induction routes with
  | nil => rfl
  | cons route routes ih =>
      obtain ⟨hroute, hroutes⟩ := List.forall_mem_cons.mp h
      rw [List.cons_append, endpoint?_cons_of_not_mem hroute, ih hroutes]

/-- Nothing is posted to the general routes. -/
theorem not_posted_general (s : Settings) : ∀ route ∈ general s, "POST" ∉ route.methods := by
  unfold general pages
  split <;> simp [fixed]

theorem destination_of_endpoint? (h : endpoint? routes method path = some e) :
    destination routes method path = .endpoint e := by
  rw [destination, h]

/-! ## Paths without braces -/

theorem matches?_fixed (methods : List String) (hplain : Template.IsPlain path.toList)
    (e : Endpoint) (cs : List Char) :
    (fixed methods path e).matches? cs =
      if cs = path.toList ∨ dropLineBreak cs = path.toList then some e else none := by
  unfold matches? fixed
  simp only [Template.ofText_of_plain hplain, Template.parts?_letters]
  by_cases hcs : cs = path.toList
  · simp [hcs]
  · by_cases hbreak : dropLineBreak cs = path.toList <;> simp [hcs, hbreak]

/-- A fixed route does not take a path that differs from its own in more than a line break. -/
theorem matches?_fixed_of_ne (methods : List String) (hplain : Template.IsPlain path.toList)
    (e : Endpoint) {cs : List Char} (hlast : cs.getLast? ≠ some '\n') (hne : cs ≠ path.toList) :
    (fixed methods path e).matches? cs = none := by
  rw [matches?_fixed methods hplain, dropLineBreak, if_neg hlast, if_neg (by simpa using hne)]

section Rules

variable {rules name : String}

theorem evaluationPath_toList (rules : String) :
    (evaluationPath rules).toList =
      (rules.toList ++ ['/']) ++
        '\x7b' :: (ruleParameter.toList ++ '\x7d' :: "/evaluate".toList) := by
  simp [evaluationPath]

theorem template_evaluation (hplain : Template.IsPlain rules.toList) :
    Template.ofText (evaluationPath rules) =
      Template.letters (rules.toList ++ ['/']) ++
        (.parameter ruleParameter PartKind.segment.word ::
          Template.letters ('/' :: "evaluate".toList)) := by
  have hslash : Template.IsPlain (rules.toList ++ ['/']) := by
    simpa [Template.IsPlain] using hplain
  rw [Template.ofText, evaluationPath_toList, Template.pieces_append hslash]
  rfl

theorem bracedNames_evaluation (hplain : Template.IsPlain rules.toList) :
    bracedNames (evaluationPath rules) = [ruleParameter.toList] := by
  have hslash : Template.IsPlain (rules.toList ++ ['/']) := by
    simpa [Template.IsPlain] using hplain
  rw [bracedNames, template_evaluation hplain, Template.withoutKinds_letters_append,
    Template.bracedTexts_append hslash]
  rfl

/-- The path of a rule, on which it is evaluated. -/
def rulePath (rules name : String) : String := rules ++ "/" ++ name ++ "/evaluate"

theorem matches?_evaluation (hplain : Template.IsPlain rules.toList) (hne : name ≠ "")
    (hsegment : '/' ∉ name.toList) :
    (evaluation rules).matches? (rulePath rules name).toList =
      some (.evaluateRule (some name)) := by
  have hpath : (rulePath rules name).toList =
      (rules.toList ++ ['/']) ++ (name.toList ++ '/' :: "evaluate".toList) := by
    simp [rulePath]
  have hparts : (evaluation rules).template.parts? (rulePath rules name).toList =
      some [(ruleParameter, name)] := by
    have hend : Template.parts? (Template.letters ('/' :: "evaluate".toList))
        ('/' :: "evaluate".toList) = some [] := by
      rw [Template.parts?_letters, if_pos rfl]
    have hsome := Template.parts?_segment ruleParameter (by simpa using hne) hsegment hend
    rw [String.ofList_toList] at hsome
    rw [evaluation, template_evaluation hplain, hpath, Template.parts?_letters_append]
    exact hsome
  have hbraced : (bracedNames (evaluationPath rules)).contains ruleParameter.toList = true := by
    rw [bracedNames_evaluation hplain]
    decide
  unfold matches?
  simp only [hparts, Option.orElse_some, Option.map_some]
  simp only [evaluation, hbraced, if_true, List.lookup_cons_self]

theorem bracedNames_of_plain (hplain : Template.IsPlain rules.toList) : bracedNames rules = [] := by
  have hletters := Template.withoutKinds_letters_append rules.toList []
  have hbraced := Template.bracedTexts_append hplain []
  rw [List.append_nil] at hletters hbraced
  rw [bracedNames, Template.ofText_of_plain hplain, hletters]
  exact (congrArg _ (List.append_nil _)).trans hbraced

theorem check_evaluationPath (hplain : Template.IsPlain rules.toList) :
    Template.check (evaluationPath rules) = .ok () := by
  have hunknown : Template.unknownKinds (Template.ofText (evaluationPath rules)) = [] := by
    rw [template_evaluation hplain, Template.unknownKinds_letters_append]
    rfl
  have hrepeated : Template.repeatedNames (Template.ofText (evaluationPath rules)) = [] := by
    have hnames : Template.names (Template.ofText (evaluationPath rules)) = [ruleParameter] := by
      rw [template_evaluation hplain, Template.names_letters_append]
      rfl
    simp [Template.repeatedNames, hnames]
  simp only [Template.check, hunknown, hrepeated]

end Rules

section Posted

variable {s : Settings} {name : String}

theorem plain_rulesPath (hplain : Template.IsPlain s.apiPrefix.toList) :
    Template.IsPlain (rulesPath s).toList := by
  rw [rulesPath, String.toList_append, Template.isPlain_append]
  exact ⟨hplain, by decide⟩

theorem checkSpecific_of_plain (hplain : Template.IsPlain s.apiPrefix.toList) :
    checkSpecific s = .ok () := by
  rw [checkSpecific, bracedNames_of_plain (plain_rulesPath hplain),
    check_evaluationPath (plain_rulesPath hplain)]
  rfl

/-- Below the path of the rules, a fixed route does not take another path than its own. -/
theorem matches?_below_of_ne (hplain : Template.IsPlain s.apiPrefix.toList) (methods : List String)
    {known below : String} (hknown : Template.IsPlain known.toList) (e : Endpoint)
    (hlast : (rulesPath s ++ below).toList.getLast? ≠ some '\n') (hne : below ≠ known) :
    (fixed methods (rulesPath s ++ known) e).matches? (rulesPath s ++ below).toList = none := by
  refine matches?_fixed_of_ne methods ?_ e hlast ?_
  · rw [String.toList_append, Template.isPlain_append]
    exact ⟨plain_rulesPath hplain, hknown⟩
  · simpa [String.toList_inj] using hne

/-- A slash in front of a name and one behind it make it no path of a fixed route. -/
theorem evaluate_ne {known : String} (h : known.toList.count '/' ≤ 1) :
    "/" ++ name ++ "/evaluate" ≠ known := by
  rintro rfl
  simp at h

theorem getLast?_evaluate (rules name : String) :
    (rules ++ ("/" ++ name ++ "/evaluate")).toList.getLast? ≠ some '\n' := by
  simp [List.getLast?_cons]

/-- What is posted to the path of a rule is the evaluation of the rule. -/
theorem endpoint?_rulePath (hplain : Template.IsPlain s.apiPrefix.toList) (hne : name ≠ "")
    (hsegment : '/' ∉ name.toList) :
    endpoint? (all s) "POST" (rulePath (rulesPath s) name) = some (.evaluateRule (some name)) := by
  have hpath : rulePath (rulesPath s) name = rulesPath s ++ ("/" ++ name ++ "/evaluate") := by
    simp [rulePath, String.append_assoc]
  have hskip (known : String) (hknown : Template.IsPlain known.toList)
      (hslash : known.toList.count '/' ≤ 1) (e : Endpoint) :
      (fixed ["POST"] (rulesPath s ++ known) e).matches? (rulePath (rulesPath s) name).toList =
        none := by
    rw [hpath]
    exact matches?_below_of_ne hplain _ hknown e (getLast?_evaluate _ name) (evaluate_ne hslash)
  have hrules := hskip "" (by decide) (by decide) .createRule
  rw [String.append_empty] at hrules
  rw [all, endpoint?_append (not_posted_general s), specific, endpoint?_cons_of_none hrules,
    endpoint?_cons_of_not_mem (by simp [fixed]),
    endpoint?_cons_of_none (hskip _ (by decide) (by decide) _),
    endpoint?_cons_of_none (hskip _ (by decide) (by decide) _)]
  exact endpoint?_cons_of_some (matches?_evaluation (plain_rulesPath hplain) hne hsegment)
    (List.mem_singleton.mpr rfl)

/-- What is posted to the path for formulas that are not stored is their evaluation. -/
theorem endpoint?_evaluateDocument (hplain : Template.IsPlain s.apiPrefix.toList) :
    endpoint? (all s) "POST" (rulesPath s ++ "/evaluate-ast") = some .evaluateDocument := by
  have hlast : (rulesPath s ++ "/evaluate-ast").toList.getLast? ≠ some '\n' := by simp
  have hskip (known : String) (hknown : Template.IsPlain known.toList)
      (hne : "/evaluate-ast" ≠ known) (e : Endpoint) :=
    matches?_below_of_ne hplain ["POST"] hknown e hlast hne
  have hrules := hskip "" (by decide) (by decide) .createRule
  rw [String.append_empty] at hrules
  have hown : (fixed ["POST"] (rulesPath s ++ "/evaluate-ast") .evaluateDocument).matches?
      (rulesPath s ++ "/evaluate-ast").toList = some .evaluateDocument := by
    rw [matches?_fixed, if_pos (.inl rfl)]
    rw [String.toList_append, Template.isPlain_append]
    exact ⟨plain_rulesPath hplain, by decide⟩
  rw [all, endpoint?_append (not_posted_general s), specific, endpoint?_cons_of_none hrules,
    endpoint?_cons_of_not_mem (by simp [fixed]),
    endpoint?_cons_of_none (hskip _ (by decide) (by decide) _)]
  exact endpoint?_cons_of_some hown (List.mem_singleton.mpr rfl)

end Posted

/-! ## Paths with too many slashes -/

section Deep

variable {s : Settings} {cs : List Char}

/-- The parameters of the route take segments, and it has at most so many slashes. -/
def IsShallow (route : Route) (most : Nat) : Prop :=
  Template.TakesSegments route.template ∧ Template.slashes route.template ≤ most

/-- A route does not take a path with more slashes than it has. -/
theorem IsShallow.matches?_eq_none {most : Nat} (h : route.IsShallow most)
    (hlast : cs.getLast? ≠ some '\n') (hdeep : most < cs.count '/') : route.matches? cs = none := by
  obtain ⟨hsegments, hslashes⟩ := h
  have hnone : route.template.parts? cs = none := by
    cases hparts : route.template.parts? cs with
    | none => rfl
    | some parts =>
        have hcount := Template.count_slash_of_parts? hsegments hparts
        omega
  unfold matches?
  rw [dropLineBreak, if_neg hlast, hnone]
  rfl

theorem isShallow_fixed {most : Nat} (hplain : Template.IsPlain path.toList)
    (hcount : path.toList.count '/' ≤ most) (methods : List String) (e : Endpoint) :
    (fixed methods path e).IsShallow most := by
  show Template.TakesSegments (Template.ofText path) ∧ Template.slashes (Template.ofText path) ≤ _
  rw [Template.ofText_of_plain hplain, Template.slashes_letters]
  exact ⟨Template.takesSegments_letters _, hcount⟩

theorem isShallow_evaluation {rules : String} (hplain : Template.IsPlain rules.toList) :
    (evaluation rules).IsShallow (rules.toList.count '/' + 2) := by
  have hend : Template.TakesSegments (.parameter ruleParameter PartKind.segment.word ::
      Template.letters ('/' :: "evaluate".toList)) := by
    intro name word hmem
    rcases List.mem_cons.mp hmem with heq | hmem
    · exact (TemplatePiece.parameter.inj heq).2
    · exact Template.takesSegments_letters _ name word hmem
  show Template.TakesSegments (Template.ofText (evaluationPath rules)) ∧
    Template.slashes (Template.ofText (evaluationPath rules)) ≤ _
  rw [template_evaluation hplain, Template.slashes_letters_append, List.count_append]
  exact ⟨Template.takesSegments_letters_append hend _, Nat.le_refl _⟩

theorem isShallow_general (s : Settings) : ∀ route ∈ general s, route.IsShallow 2 := by
  have hfixed {path : String} (hplain : Template.IsPlain path.toList)
      (hcount : path.toList.count '/' ≤ 2) {methods : List String} {e : Endpoint} :=
    isShallow_fixed hplain hcount methods e
  have hpages : ∀ route ∈ pages s, route.IsShallow 2 := by
    unfold pages
    split
    · simp only [List.map_cons, List.map_nil, List.forall_mem_cons]
      exact ⟨hfixed (by decide) (by decide), hfixed (by decide) (by decide),
        hfixed (by decide) (by decide), hfixed (by decide) (by decide),
        fun _ hmem => absurd hmem List.not_mem_nil⟩
    · exact fun _ hmem => absurd hmem List.not_mem_nil
  refine List.forall_mem_append.mpr ⟨hpages, ?_⟩
  simp only [List.forall_mem_cons]
  exact ⟨hfixed (by decide) (by decide), hfixed (by decide) (by decide),
    hfixed (by decide) (by decide), fun _ hmem => absurd hmem List.not_mem_nil⟩

/-- No route has more slashes than the common beginning and three more. -/
theorem isShallow_all (hplain : Template.IsPlain s.apiPrefix.toList) :
    ∀ route ∈ all s, route.IsShallow (s.apiPrefix.toList.count '/' + 3) := by
  have hgeneral : ∀ route ∈ general s, route.IsShallow (s.apiPrefix.toList.count '/' + 3) := by
    intro route hroute
    obtain ⟨hsegments, hcount⟩ := isShallow_general s route hroute
    exact ⟨hsegments, by omega⟩
  have hbelow (below : String) (hbelow : Template.IsPlain below.toList)
      (hcount : below.toList.count '/' ≤ 3) {methods : List String} {e : Endpoint} :
      (fixed methods (s.apiPrefix ++ below) e).IsShallow (s.apiPrefix.toList.count '/' + 3) := by
    refine isShallow_fixed ?_ ?_ methods e
    · rw [String.toList_append, Template.isPlain_append]
      exact ⟨hplain, hbelow⟩
    · rw [String.toList_append, List.count_append]
      omega
  have hevaluation : (evaluation (rulesPath s)).IsShallow (s.apiPrefix.toList.count '/' + 3) := by
    have hshallow := isShallow_evaluation (plain_rulesPath hplain)
    rwa [rulesPath, String.toList_append, List.count_append] at hshallow
  refine List.forall_mem_append.mpr ⟨hgeneral, ?_⟩
  unfold specific
  simp only [List.forall_mem_cons, rulesPath, attributesPath, String.append_assoc]
  refine ⟨hbelow _ (by decide) (by decide), hbelow _ (by decide) (by decide),
    hbelow _ (by decide) (by decide), hbelow _ (by decide) (by decide), hevaluation,
    hbelow _ (by decide) (by decide), hbelow _ (by decide) (by decide), ?_,
    fun _ hmem => absurd hmem List.not_mem_nil⟩
  have hprefix : (fixed ["GET"] (s.apiPrefix ++ "") .root).IsShallow _ :=
    hbelow "" (by decide) (by decide)
  rwa [String.append_empty] at hprefix

/-- A path with more slashes leads nowhere. -/
theorem destination_of_deep (hplain : Template.IsPlain s.apiPrefix.toList)
    (hbreak : path.toList.getLast? ≠ some '\n') (hslash : path.toList.getLast? ≠ some '/')
    (hdeep : s.apiPrefix.toList.count '/' + 3 < path.toList.count '/') (method : String) :
    destination (all s) method path = .nowhere := by
  have hnone : known (all s) path = [] := by
    refine List.filterMap_eq_nil_iff.mpr ?_
    intro route hroute
    rw [(isShallow_all hplain route hroute).matches?_eq_none hbreak hdeep]
    rfl
  have hother : ((all s).any fun route => (route.matches? (otherSlash path.toList)).isSome) =
      false := by
    rw [List.any_eq_false]
    intro route hroute
    have hmore : (path.toList ++ ['/']).count '/' = path.toList.count '/' + 1 := by simp
    rw [otherSlash, if_neg hslash,
      (isShallow_all hplain route hroute).matches?_eq_none (by simp) (by omega)]
    exact Bool.false_ne_true
  have hendpoint : endpoint? (all s) method path = none := by
    rw [endpoint?, hnone]
    rfl
  rw [destination, hendpoint]
  simp [hnone, hother]

end Deep

end Route

namespace Request

variable {settings : Settings} {request : Request} {name : String} {e : Endpoint}

theorem askedMethod?_of_post (hmethod : request.method = "POST") :
    request.askedMethod? = none := by
  simp [askedMethod?, hmethod]

theorem checkRoutes_of_plain (hplain : Template.IsPlain settings.apiPrefix.toList)
    (request : Request) : request.checkRoutes settings = .ok () := by
  simp only [checkRoutes, Route.checkSpecific_of_plain hplain, ite_self]

/-- If the common beginning of the paths has no braces, a request that is posted reaches the
endpoint of its path. -/
theorem reached?_of_posted (hplain : Template.IsPlain settings.apiPrefix.toList)
    (hmethod : request.method = "POST")
    (h : Route.endpoint? (Route.all settings) "POST" (Path.ofTarget request.target) = some e) :
    request.reached? settings = some e := by
  rw [← hmethod] at h
  simp only [reached?, askedMethod?_of_post hmethod, checkRoutes_of_plain hplain,
    Route.destination_of_endpoint? h]

/-- A request that is posted to the path of a rule reaches the evaluation of the rule. -/
theorem reached?_evaluateRule (hplain : Template.IsPlain settings.apiPrefix.toList)
    (hmethod : request.method = "POST")
    (hpath : Path.ofTarget request.target = Route.rulePath (Route.rulesPath settings) name)
    (hne : name ≠ "") (hsegment : '/' ∉ name.toList) :
    request.reached? settings = some (.evaluateRule (some name)) := by
  refine reached?_of_posted hplain hmethod ?_
  rw [hpath]
  exact Route.endpoint?_rulePath hplain hne hsegment

/-- A request that is posted to the path for formulas that are not stored reaches their evaluation.
-/
theorem reached?_evaluateDocument (hplain : Template.IsPlain settings.apiPrefix.toList)
    (hmethod : request.method = "POST")
    (hpath : Path.ofTarget request.target = Route.rulesPath settings ++ "/evaluate-ast") :
    request.reached? settings = some .evaluateDocument := by
  refine reached?_of_posted hplain hmethod ?_
  rw [hpath]
  exact Route.endpoint?_evaluateDocument hplain

end Request

end Eligibility

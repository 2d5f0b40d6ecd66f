import Eligibility.Catalog.Scripted
import Eligibility.Proofs.Action
import Eligibility.Proofs.Store.Growth

/-!
# Validation against any catalog

A catalog may answer as it likes, and a write may do anything and report anything. Whatever it does,
validation looks its names up, writes the ones that were not found (`Catalog.written`), and looks
them up again. The second answer alone decides (`ends_validate_of_eq`).

`Catalog.watched` is the same catalog with a record of its calls. With it the calls of a validation
can be told, in their order and with all that is handed over (`watched_validate`). An empty name
that is not found is the exception: no entry can have it, so nothing is written and there is no
second look (`ends_validate_of_empty`).
-/

namespace Eligibility

/-! ## Entries -/

/-- The entry of a name that is registered on the way. -/
def Attribute.guessed (hints : List String) (name : String) : Attribute :=
  ⟨name, .guess (hints.map Text.lower) name, none⟩

/-- One of the hints occurs in the name, both in lower case. -/
def Hinted (hints : List String) (name : String) : Prop :=
  ∃ hint ∈ hints, (Text.lower hint).toList <:+: (Text.lower name).toList

namespace DataType

theorem occursIn_iff (part cs : List Char) : occursIn part cs = true ↔ part <:+: cs := by
  induction cs with
  | nil => simp [occursIn]
  | cons c cs ih => simp [occursIn, ih, List.infix_cons_iff]

/-- Hinted names are those of numbers, and all others are those of texts. -/
theorem guess_cases (hints : List String) (name : String) :
    guess (hints.map Text.lower) name = .number ∧ Hinted hints name ∨
      guess (hints.map Text.lower) name = .string ∧ ¬ Hinted hints name := by
  have hany : ((hints.map Text.lower).any fun hint =>
      occursIn hint.toList (Text.lower name).toList) = true ↔ Hinted hints name := by
    simp [Hinted, occursIn_iff]
  rw [← hany, guess]
  split
  · exact .inl ⟨rfl, ‹_›⟩
  · exact .inr ⟨rfl, ‹_›⟩

end DataType

/-! ## Names that were not found -/

/-- The names that no attribute found has, each once, in the order of their first appearance. -/
def notFound (names : List String) (found : List Attribute) : List String :=
  names.eraseDups.filter fun name => name ∉ found.map (·.name)

/-- The entries for the names that were not found. -/
def newEntries (hints names : List String) (found : List Attribute) : List Attribute :=
  (notFound names found).map (.guessed hints)

theorem nodup_eraseDups (names : List String) : names.eraseDups.Nodup := by
  match names with
  | [] => exact .nil
  | name :: names =>
      rw [List.eraseDups_cons, List.nodup_cons]
      exact ⟨by simp, nodup_eraseDups _⟩
termination_by names.length
decreasing_by exact Nat.lt_succ_of_le (List.length_filter_le ..)

/-- What is left out as a repetition has stood there before. -/
theorem find?_eraseDups (p : String → Bool) (names : List String) :
    names.eraseDups.find? p = names.find? p := by
  match names with
  | [] => rfl
  | name :: names =>
      rw [List.eraseDups_cons, List.find?_cons, List.find?_cons]
      cases hname : p name with
      | true => rfl
      | false =>
          simp only
          rw [find?_eraseDups p, List.find?_filter]
          refine congrArg (fun q => names.find? q) (funext fun other => ?_)
          by_cases hother : other = name
          · simp [hother, hname]
          · simp [hother]
termination_by names.length
decreasing_by exact Nat.lt_succ_of_le (List.length_filter_le ..)

section NotFound

variable {names : List String} {found : List Attribute}

theorem mem_notFound {name : String} :
    name ∈ notFound names found ↔ name ∈ names ∧ name ∉ found.map (·.name) := by
  simp [notFound]

theorem fresh_notFound (names : List String) (found : List Attribute) :
    Fresh (found.map (·.name)) (notFound names found) := by
  refine ⟨(nodup_eraseDups names).filter _, ?_⟩
  intro name hname
  exact (mem_notFound.mp hname).2

theorem map_name_newEntries (hints names : List String) (found : List Attribute) :
    (newEntries hints names found).map (·.name) = notFound names found := by
  rw [newEntries, List.map_map]
  exact List.map_id _

/-- The first name that was not found, repetitions or not. -/
theorem head?_notFound (names : List String) (found : List Attribute) :
    (notFound names found).head? = names.find? fun name => name ∉ found.map (·.name) := by
  rw [notFound, List.head?_filter, find?_eraseDups]

end NotFound

namespace Catalog

variable {σ : Type} {catalog : Catalog σ} {hints names : List String} {s s' : σ}
  {found : List Attribute}

/-! ## The parts of a validation -/

/-- The state that a write leaves, whatever it reports. Without entries there is no write. -/
def written (catalog : Catalog σ) : List Attribute → σ → σ
  | [], s => s
  | added, s => (catalog.insertMany added s).2

theorem written_eq {added : List Attribute} {report : Except CatalogWriteError Unit}
    (hadded : added ≠ []) (h : catalog.insertMany added s = (report, s')) :
    catalog.written added s = s' := by
  cases added with
  | nil => exact absurd rfl hadded
  | cons a rest => exact congrArg Prod.snd h

theorem ends_findMissing_of_eq (h : catalog.findByNames names.eraseDups s = (found, s')) :
    (catalog.findMissing names).Ends s (.ok (notFound names found)) s' := by
  have hfilter : (names.eraseDups.filter fun name => !(found.map (·.name)).contains name) =
      notFound names found :=
    List.filter_congr fun name _ => by rw [List.contains_eq_mem, decide_not]
  rw [← hfilter]
  exact (Action.ends_step h).bind ⟨_, rfl⟩

theorem entryFor_of_ne {name : String} (h : name ≠ "") :
    entryFor (hints.map Text.lower) name = .ok (.guessed hints name) := by
  have htype : DataType.ofValue? (.text (DataType.guess (hints.map Text.lower) name).word) =
      some (.guess (hints.map Text.lower) name) := by
    cases DataType.guess (hints.map Text.lower) name <;> rfl
  rw [entryFor, Attribute.make?, Attribute.check, htype]
  simp [Value.isVoid, h, Except.map, Except.mapError, Attribute.guessed]

theorem mapM_entryFor (h : ∀ name ∈ names, name ≠ "") :
    names.mapM (entryFor (hints.map Text.lower)) = .ok (names.map (.guessed hints)) := by
  induction names with
  | nil => rfl
  | cons name names ih =>
      rw [List.mapM_cons, entryFor_of_ne (h name List.mem_cons_self),
        ih fun n hn => h n (List.mem_cons_of_mem _ hn)]
      rfl

theorem mapM_entryFor_of_mem (h : "" ∈ names) :
    names.mapM (entryFor (hints.map Text.lower)) = .error (.entry .attributeNameRequired) := by
  induction names with
  | nil => exact nomatch h
  | cons name names ih =>
      rw [List.mapM_cons]
      by_cases hname : name = ""
      · rw [hname]
        rfl
      · rw [entryFor_of_ne hname, ih ((List.mem_cons.mp h).resolve_left fun hne => hname hne.symm)]
        rfl

/-- What was not found is written, whatever comes of it. -/
theorem ends_registerMissing_of_eq (h : catalog.findByNames names.eraseDups s = (found, s'))
    (hnames : "" ∉ notFound names found) :
    (catalog.registerMissing hints names).Ends s (.ok (newEntries hints names found))
      (catalog.written (newEntries hints names found) s') := by
  refine (ends_findMissing_of_eq h).bind ?_
  by_cases hmissing : notFound names found = []
  · rw [newEntries, hmissing]
    exact ⟨_, rfl⟩
  · have hadded : newEntries hints names found ≠ [] := by simpa [newEntries] using hmissing
    rcases hwrite : catalog.insertMany (newEntries hints names found) s' with
      ⟨report, after⟩
    rw [if_neg (by simpa using hmissing), mapM_entryFor fun n hn hempty => hnames (hempty ▸ hn),
      written_eq hadded hwrite]
    refine (Action.ends_ofExcept _ s').bind (.bind ⟨_, rfl⟩ ((Action.ends_step hwrite).bind ?_))
    -- a failure is noted, and left at that
    cases report with
    | error e => exact ⟨_, rfl⟩
    | ok _ => exact ⟨_, rfl⟩

theorem ends_registerMissing_of_empty
    (h : catalog.findByNames names.eraseDups s = (found, s')) (hempty : "" ∈ notFound names found) :
    (catalog.registerMissing hints names).Ends s (.error (.entry .attributeNameRequired)) s' := by
  refine (ends_findMissing_of_eq h).bind ?_
  rw [if_neg (by simpa using List.ne_nil_of_mem hempty), mapM_entryFor_of_mem hempty]
  exact (Action.ends_ofExcept _ s').bind_error _

/-- The verdict of an answer: of the names that were not found the first one is told. -/
def verdict (names : List String) (found : List Attribute) : Except RuleError Unit :=
  match names.find? fun name => name ∉ found.map (·.name) with
  | none => .ok ()
  | some name => .error (.unknownAttribute name)

theorem verdict_of_notFound (h : notFound names found = []) : verdict names found = .ok () := by
  rw [verdict, ← head?_notFound, h]
  rfl

/-- The second answer decides. -/
theorem ends_validate_of_eq {f : Formula} {s'' : σ} {again : List Attribute}
    (h : catalog.findByNames f.attributes.eraseDups s = (found, s'))
    (hnames : "" ∉ notFound f.attributes found)
    (hagain : catalog.findByNames f.attributes.eraseDups
      (catalog.written (newEntries hints f.attributes found) s') = (again, s'')) :
    (catalog.validate hints f).Ends s (verdict f.attributes again) s'' := by
  refine (ends_registerMissing_of_eq h hnames).bind ((ends_findMissing_of_eq hagain).bind ?_)
  rw [verdict, ← head?_notFound]
  cases notFound f.attributes again with
  | nil => exact ⟨_, rfl⟩
  | cons name rest => exact .bind ⟨_, rfl⟩ ⟨_, rfl⟩

/-- A name that no entry can have ends the validation before anything is written. -/
theorem ends_validate_of_empty {f : Formula}
    (h : catalog.findByNames f.attributes.eraseDups s = (found, s'))
    (hempty : "" ∈ notFound f.attributes found) :
    (catalog.validate hints f).Ends s (.error (.entry .attributeNameRequired)) s' :=
  (ends_registerMissing_of_empty h hempty).bind_error _

/-! ## The calls of a validation -/

/-- A call of a catalog, with what came back. -/
inductive Call where
  | asked (names : List String) (answer : List Attribute)
  | wrote (added : List Attribute) (report : Except CatalogWriteError Unit)

/-- A state with the calls so far. -/
structure Watch (σ : Type) where
  state : σ
  calls : List Call

/-- The same catalog with a record of its calls. -/
def watched (catalog : Catalog σ) : Catalog (Watch σ) where
  findByNames names w :=
    let (found, state) := catalog.findByNames names w.state
    (found, ⟨state, w.calls ++ [.asked names found]⟩)
  insertMany added w :=
    let (report, state) := catalog.insertMany added w.state
    (report, ⟨state, w.calls ++ [.wrote added report]⟩)

/-- The call for entries that are to be written, if there are any. -/
def writeCalls (catalog : Catalog σ) : List Attribute → σ → List Call
  | [], _ => []
  | added, s => [.wrote added (catalog.insertMany added s).1]

theorem watched_written (catalog : Catalog σ) (added : List Attribute) (s : σ)
    (calls : List Call) :
    catalog.watched.written added ⟨s, calls⟩ =
      ⟨catalog.written added s, calls ++ catalog.writeCalls added s⟩ := by
  cases added with
  | nil => simp [written, writeCalls]
  | cons a rest => rfl

/-- **A validation looks twice and writes at most once.** It looks up the distinct names, writes one
entry for each that was not found, if there are any, and looks up the same names again. What the
write reports does not matter: the first name that the second answer lacks is told. The record of
the calls changes nothing. -/
theorem watched_validate (catalog : Catalog σ) (hints : List String) (f : Formula) (s : σ)
    (h : "" ∉ notFound f.attributes (catalog.findByNames f.attributes.eraseDups s).1) :
    let names := f.attributes.eraseDups
    let first := catalog.findByNames names s
    let added := newEntries hints f.attributes first.1
    let second := catalog.findByNames names (catalog.written added first.2)
    let reply := catalog.watched.validate hints f ⟨s, []⟩
    reply.result = verdict f.attributes second.1 ∧
      reply.state.calls = [.asked names first.1] ++ catalog.writeCalls added first.2 ++
        [.asked names second.1] ∧
      added.map (·.name) = names.filter (fun name => name ∉ first.1.map (·.name)) ∧
      Fresh (first.1.map (·.name)) (added.map (·.name)) ∧
      reply.result = (catalog.validate hints f s).result ∧
      reply.state.state = (catalog.validate hints f s).state := by
  intro names first added second reply
  have hplain : (catalog.validate hints f).Ends s (verdict f.attributes second.1) second.2 :=
    ends_validate_of_eq rfl h rfl
  have hlook : catalog.watched.findByNames names ⟨s, []⟩ =
      (first.1, ⟨first.2, [.asked names first.1]⟩) := rfl
  have hagain : catalog.watched.findByNames names
      (catalog.watched.written added ⟨first.2, [.asked names first.1]⟩) =
        (second.1, ⟨second.2, [.asked names first.1] ++ catalog.writeCalls added first.2 ++
          [.asked names second.1]⟩) := by
    rw [watched_written]
    rfl
  have hwatched := ends_validate_of_eq hlook h hagain
  refine ⟨hwatched.result_eq, congrArg Watch.calls hwatched.state_eq,
    map_name_newEntries hints f.attributes first.1, ?_, ?_, ?_⟩
  · rw [map_name_newEntries]
    exact fresh_notFound f.attributes first.1
  · exact hwatched.result_eq.trans hplain.result_eq.symm
  · exact (congrArg Watch.state hwatched.state_eq).trans hplain.state_eq.symm

/-- A write that adds its entry and fails all the same. -/
theorem watched_validate_of_failing_write :
    let catalog := scripted .addsAndFails
    let f : Formula := .join .and (.atom ⟨"age", ">", .number (.int 30)⟩)
      (.join .or (.atom ⟨"team", "=", .text "hr"⟩) (.atom ⟨"age", "<", .number (.int 65)⟩))
    let reply := catalog.watched.validate ["Age"] f ⟨.ofNames ["team"], []⟩
    "" ∉ notFound f.attributes (catalog.findByNames f.attributes.eraseDups (.ofNames ["team"])).1 ∧
      reply.result = .ok () ∧
      reply.state.calls =
        [.asked ["age", "team"] [⟨"team", .string, none⟩],
          .wrote [⟨"age", .number, none⟩] (.error ⟨"disk full"⟩),
          .asked ["age", "team"] [⟨"team", .string, none⟩, ⟨"age", .number, none⟩]] := by
  intro catalog f reply
  have hattributes : f.attributes = ["age", "team", "age"] := by
    simp [f, Formula.attributes]
  have h : "" ∉ notFound f.attributes
      (catalog.findByNames f.attributes.eraseDups (.ofNames ["team"])).1 := by
    rw [hattributes]
    decide
  obtain ⟨hresult, hcalls, -⟩ := watched_validate catalog ["Age"] f (.ofNames ["team"]) h
  rw [hattributes] at hresult hcalls
  exact ⟨h, hresult, hcalls⟩

/-- A tree may mention the empty name. -/
theorem validate_of_empty_name :
    let f : Formula := .atom ⟨"", "=", .number (.int 1)⟩
    let reply := (scripted .adds).validate [] f (.ofNames [])
    f.attributes.eraseDups = [""] ∧ reply.state.queries = [[""]] ∧
      reply.state.queries ≠ [f.attributes.eraseDups, f.attributes.eraseDups] ∧
      reply.state.inserts = [] ∧ reply.result = .error (.entry .attributeNameRequired) := by
  intro f reply
  have hattributes : f.attributes = [""] := by
    simp [f, Formula.attributes]
  have hlook : (scripted .adds).findByNames f.attributes.eraseDups (.ofNames []) =
      ([], ⟨[], [[""]], []⟩) := by
    rw [hattributes]
    rfl
  have hends : ((scripted .adds).validate [] f).Ends (.ofNames [])
      (.error (.entry .attributeNameRequired)) ⟨[], [[""]], []⟩ := by
    refine ends_validate_of_empty hlook ?_
    rw [hattributes]
    decide
  have hqueries : reply.state.queries = [[""]] := congrArg Script.queries hends.state_eq
  refine ⟨by rw [hattributes]; rfl, hqueries, ?_, congrArg Script.inserts hends.state_eq,
    hends.result_eq⟩
  rw [hqueries, hattributes]
  decide

end Catalog

end Eligibility

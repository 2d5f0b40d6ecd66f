import Eligibility.Store.Session
import Mathlib.Data.List.Nodup

/-!
# How the tables of a session grow

Rows are added at the end of the tables, and only if their names are free. So whatever a session
does at one go is one of three things (`Session.Change`): it adds rows to what it sees, it goes back
to what was committed, or it commits what it sees.

* `Change.consistent` — names stay distinct, and what was committed stays the beginning of what the
  session sees;
* `Change.starts` — tables that both begin with go on being the beginning of both, whatever is
  undone on the way.
-/

namespace Eligibility

/-- Names that are added to known ones: distinct, and none of them known. -/
def Fresh (known added : List String) : Prop := added.Nodup ∧ ∀ name ∈ added, name ∉ known

theorem fresh_nil (known : List String) : Fresh known [] := ⟨.nil, by simp⟩

theorem fresh_singleton {known : List String} {name : String} (h : name ∉ known) :
    Fresh known [name] := ⟨by simp, by simpa using h⟩

theorem Fresh.append_nodup {known added : List String} (h : Fresh known added)
    (hknown : known.Nodup) : (known ++ added).Nodup := by
  refine List.nodup_append'.mpr ⟨hknown, h.1, ?_⟩
  intro name hold hnew
  exact h.2 name hnew hold

/-- Among rows with distinct names, each is found under its own. -/
theorem find?_of_nodup {α : Type} {key : α → String} {rows : List α} {row : α}
    (h : (rows.map key).Nodup) (hrow : row ∈ rows) :
    (rows.find? fun other => key other == key row) = some row := by
  induction rows with
  | nil => exact nomatch hrow
  | cons first rows ih =>
      rw [List.map_cons, List.nodup_cons] at h
      obtain ⟨hfirst, hrows⟩ := h
      rcases List.mem_cons.mp hrow with rfl | hrow
      · simp
      · have hne : key first ≠ key row := fun heq => hfirst (heq ▸ List.mem_map_of_mem hrow)
        rw [List.find?_cons_of_neg (by simpa using hne), ih hrows hrow]

namespace Tables

/-- The names of the rules, in the order of insertion. -/
def ruleNames (tables : Tables) : List String := tables.rules.map (·.name)

/-- The names of the attributes, in the order of insertion. -/
def attributeNames (tables : Tables) : List String := tables.attributes.map (·.name)

/-- The tables with rows added at their ends. -/
def append (tables : Tables) (rules : List RuleRow) (attributes : List Attribute) : Tables :=
  ⟨tables.rules ++ rules, tables.attributes ++ attributes⟩

/-- No two rules share a name, and no two attributes do. -/
structure Distinct (tables : Tables) : Prop where
  rules : tables.ruleNames.Nodup
  attributes : tables.attributeNames.Nodup

/-- The tables begin with the rows of others, in the same order. -/
structure StartWith (tables first : Tables) : Prop where
  rules : first.rules <+: tables.rules
  attributes : first.attributes <+: tables.attributes

variable {tables first : Tables} {rules : List RuleRow} {attributes : List Attribute}

theorem distinct_empty : Distinct .empty := ⟨.nil, .nil⟩

theorem StartWith.refl (tables : Tables) : tables.StartWith tables :=
  ⟨List.prefix_rfl, List.prefix_rfl⟩

theorem StartWith.append (h : tables.StartWith first) (rules : List RuleRow)
    (attributes : List Attribute) : (tables.append rules attributes).StartWith first :=
  ⟨h.rules.trans (List.prefix_append ..), h.attributes.trans (List.prefix_append ..)⟩

theorem Distinct.append (h : tables.Distinct) (hrules : Fresh tables.ruleNames (rules.map (·.name)))
    (hattributes : Fresh tables.attributeNames (attributes.map (·.name))) :
    (tables.append rules attributes).Distinct := by
  constructor
  · rw [ruleNames, Tables.append, List.map_append]
    exact hrules.append_nodup h.rules
  · rw [attributeNames, Tables.append, List.map_append]
    exact hattributes.append_nodup h.attributes

/-- The beginning of tables with distinct names has distinct names. -/
theorem StartWith.distinct (h : tables.StartWith first) (htables : tables.Distinct) :
    first.Distinct :=
  ⟨htables.rules.sublist (h.rules.map _).sublist,
    htables.attributes.sublist (h.attributes.map _).sublist⟩

end Tables

namespace Session

variable {s s' : Session}

/-- The session with rows added to what it sees. -/
def add (s : Session) (rules : List RuleRow) (attributes : List Attribute) : Session :=
  { s with current := s.current.append rules attributes }

theorem add_nil (s : Session) : s.add [] [] = s := by
  simp [add, Tables.append]

theorem add_add (s : Session) (rules rules' : List RuleRow)
    (attributes attributes' : List Attribute) :
    (s.add rules attributes).add rules' attributes' =
      s.add (rules ++ rules') (attributes ++ attributes') := by
  simp [add, Tables.append]

/-! ## Insertions -/

theorem rule?_eq_none_iff {name : String} : s.rule? name = none ↔ name ∉ s.current.ruleNames := by
  simp [rule?, Tables.ruleNames]

theorem attribute?_eq_none_iff {name : String} :
    s.attribute? name = none ↔ name ∉ s.current.attributeNames := by
  simp [attribute?, Tables.attributeNames]

theorem rule?_of_mem {row : RuleRow} (h : s.current.Distinct) (hrow : row ∈ s.current.rules) :
    s.rule? row.name = some row := find?_of_nodup h.rules hrow

/-- A row that is added under a free name is found under it. -/
theorem rule?_of_concat {s' : Session} (row : RuleRow)
    (hrules : s'.current.rules = s.current.rules ++ [row]) (hfree : s.rule? row.name = none) :
    s'.rule? row.name = some row := by
  show s'.current.rules.find? _ = _
  rw [hrules, List.find?_append, show s.current.rules.find? _ = none from hfree, Option.none_or]
  exact List.find?_cons_of_pos (beq_self_eq_true row.name)

theorem attribute?_of_mem {a : Attribute} (h : s.current.Distinct)
    (ha : a ∈ s.current.attributes) : s.attribute? a.name = some a := find?_of_nodup h.attributes ha

theorem areFree_iff {names : List String} :
    s.areFree names = true ↔ Fresh s.current.attributeNames names := by
  induction names with
  | nil => simp [areFree, fresh_nil]
  | cons name names ih =>
      rw [areFree, Bool.and_eq_true, Bool.and_eq_true, ih, Option.isNone_iff_eq_none,
        attribute?_eq_none_iff]
      simp only [Fresh, List.nodup_cons, List.forall_mem_cons, List.contains_eq_mem,
        Bool.not_eq_true', decide_eq_false_iff_not]
      tauto

theorem insertRule_of_free {row : RuleRow} (h : s.rule? row.name = none) :
    s.insertRule row = (true, s.add [row] []) := by
  rw [insertRule, h]
  simp [add, addRule, Tables.append]

theorem insertRule_of_taken {row : RuleRow} (h : s.rule? row.name ≠ none) :
    s.insertRule row = (false, s.rollback) := by
  rw [insertRule, if_pos (Option.isSome_iff_ne_none.mpr h)]

theorem insertAttributes_of_fresh {added : List Attribute}
    (h : Fresh s.current.attributeNames (added.map (·.name))) :
    s.insertAttributes added = (true, s.add [] added) := by
  rw [insertAttributes, if_pos (areFree_iff.mpr h)]
  simp [add, addAttributes, Tables.append]

theorem insertAttributes_of_taken {added : List Attribute}
    (h : ¬ Fresh s.current.attributeNames (added.map (·.name))) :
    s.insertAttributes added = (false, s.rollback) := by
  rw [insertAttributes, if_neg fun hfree => h (areFree_iff.mp hfree)]

/-! ## What a session does at one go -/

/-- What a session does at one go: adding rows under fresh names, undoing, or committing. -/
inductive Change (s : Session) : Session → Prop where
  | add (rules : List RuleRow) (attributes : List Attribute)
      (hrules : Fresh s.current.ruleNames (rules.map (·.name)))
      (hattributes : Fresh s.current.attributeNames (attributes.map (·.name))) :
      Change s (s.add rules attributes)
  | rollback : Change s s.rollback
  | commit : Change s s.commit

theorem Change.refl (s : Session) : s.Change s := by
  have h := Change.add (s := s) [] [] (fresh_nil _) (fresh_nil _)
  rwa [add_nil] at h

theorem Change.of_eq (h : s' = s) : s.Change s' := h ▸ Change.refl s

/-- Inserting a rule adds it or undoes what is pending. -/
theorem change_insertRule (s : Session) (row : RuleRow) : s.Change (s.insertRule row).2 := by
  by_cases h : s.rule? row.name = none
  · rw [insertRule_of_free h]
    exact .add [row] [] (fresh_singleton (rule?_eq_none_iff.mp h)) (fresh_nil _)
  · rw [insertRule_of_taken h]
    exact .rollback

/-- Inserting attributes adds all of them or undoes what is pending. -/
theorem change_insertAttributes (s : Session) (added : List Attribute) :
    s.Change (s.insertAttributes added).2 := by
  by_cases h : Fresh s.current.attributeNames (added.map (·.name))
  · rw [insertAttributes_of_fresh h]
    exact .add [] added (fresh_nil _) h
  · rw [insertAttributes_of_taken h]
    exact .rollback

/-- The names that the session sees are distinct, and what was committed comes first. -/
structure Consistent (s : Session) : Prop where
  distinct : s.current.Distinct
  starts : s.current.StartWith s.committed

theorem consistent_ofTables {tables : Tables} (h : tables.Distinct) :
    (ofTables tables).Consistent := ⟨h, .refl _⟩

theorem Consistent.committed_distinct (h : s.Consistent) : s.committed.Distinct :=
  h.starts.distinct h.distinct

theorem Change.consistent (hchange : s.Change s') (h : s.Consistent) : s'.Consistent := by
  cases hchange with
  | add rules attributes hrules hattributes =>
      exact ⟨h.distinct.append hrules hattributes, h.starts.append rules attributes⟩
  | rollback => exact consistent_ofTables h.committed_distinct
  | commit => exact consistent_ofTables h.distinct

/-- The tables as committed and the tables as seen both begin with these rows. -/
structure Starts (first : Tables) (s : Session) : Prop where
  committed : s.committed.StartWith first
  current : s.current.StartWith first

theorem Consistent.starts_committed (h : s.Consistent) : Starts s.committed s :=
  ⟨.refl _, h.starts⟩

theorem Change.starts {first : Tables} (hchange : s.Change s') (h : Starts first s) :
    Starts first s' := by
  cases hchange with
  | add rules attributes => exact ⟨h.committed, h.current.append rules attributes⟩
  | rollback => exact ⟨h.committed, h.committed⟩
  | commit => exact ⟨h.current, h.current⟩

end Session

end Eligibility

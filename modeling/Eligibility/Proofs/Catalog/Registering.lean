import Eligibility.Proofs.Catalog.Validating
import Eligibility.RuleBook.Basic

/-!
# Registering attributes in a session

On the catalog of a session registration cannot fail: the names to be written are those that the
catalog does not have, each once, so they are free (`fresh_unknown`), and after the write none of
them is missing (`ends_validate`). What is left is the name that no attribute can have, the empty
one; it stops the registration before anything is written (`ends_registerMissing_of_mem`).
-/

namespace Eligibility

/-- The names that no attribute has, each once, in the order of their first appearance. -/
def Tables.unknown (tables : Tables) (names : List String) : List String :=
  names.eraseDups.filter fun name => name ∉ tables.attributeNames

/-- The entries that are registered on the way for the names that no attribute has. -/
def Tables.guessedEntries (tables : Tables) (hints names : List String) : List Attribute :=
  (tables.unknown names).map (.guessed hints)

namespace Tables

variable {tables : Tables} {hints names : List String}

theorem mem_unknown {name : String} :
    name ∈ tables.unknown names ↔ name ∈ names ∧ name ∉ tables.attributeNames := mem_notFound

theorem map_name_guessedEntries (hints : List String) :
    (tables.guessedEntries hints names).map (·.name) = tables.unknown names :=
  map_name_newEntries hints names tables.attributes

theorem fresh_unknown (names : List String) :
    Fresh tables.attributeNames (tables.unknown names) := fresh_notFound names tables.attributes

theorem fresh_guessedEntries (hints names : List String) :
    Fresh tables.attributeNames ((tables.guessedEntries hints names).map (·.name)) := by
  rw [map_name_guessedEntries]
  exact fresh_unknown names

/-- After the registration every name is known. -/
theorem mem_attributeNames_append (rules : List RuleRow) {name : String} (h : name ∈ names) :
    name ∈ (tables.append rules (tables.guessedEntries hints names)).attributeNames := by
  rw [attributeNames, append, List.map_append, map_name_guessedEntries, List.mem_append]
  by_cases hknown : name ∈ tables.attributeNames
  · exact .inl hknown
  · exact .inr (mem_unknown.mpr ⟨h, hknown⟩)

theorem unknown_append (rules : List RuleRow) :
    (tables.append rules (tables.guessedEntries hints names)).unknown names = [] := by
  rw [List.eq_nil_iff_forall_not_mem]
  intro name hname
  obtain ⟨hmem, hnew⟩ := mem_unknown.mp hname
  exact hnew (mem_attributeNames_append rules hmem)

end Tables

namespace Catalog

variable {s : Session} {hints names : List String}

/-- Looking names up and leaving out what was found leaves out what is known. -/
theorem notFound_attributesNamed (names : List String) (s : Session) :
    notFound names (s.attributesNamed names.eraseDups) = s.current.unknown names := by
  refine List.filter_congr fun name hname => decide_eq_decide.mpr (not_congr ?_)
  simp only [Session.attributesNamed, Tables.attributeNames, List.mem_map, List.mem_filter,
    List.contains_eq_mem, decide_eq_true_eq]
  constructor
  · rintro ⟨a, ⟨hmem, -⟩, rfl⟩
    exact ⟨a, hmem, rfl⟩
  · rintro ⟨a, hmem, rfl⟩
    exact ⟨a, ⟨hmem, hname⟩, rfl⟩

theorem newEntries_attributesNamed (hints names : List String) (s : Session) :
    newEntries hints names (s.attributesNamed names.eraseDups) =
      s.current.guessedEntries hints names := by
  rw [newEntries, notFound_attributesNamed, Tables.guessedEntries]

theorem ends_findMissing (names : List String) (s : Session) :
    (Session.catalog.findMissing names).Ends s (.ok (s.current.unknown names)) s := by
  rw [← notFound_attributesNamed]
  exact ends_findMissing_of_eq rfl

/-- The entries of unknown names are all written. -/
theorem written_guessedEntries (hints names : List String) (s : Session) :
    Session.catalog.written (s.current.guessedEntries hints names) s =
      s.add [] (s.current.guessedEntries hints names) := by
  by_cases hempty : s.current.guessedEntries hints names = []
  · rw [hempty, Session.add_nil]
    rfl
  · have hwrite : Session.catalog.insertMany (s.current.guessedEntries hints names) s =
        (.ok (), s.add [] (s.current.guessedEntries hints names)) := by
      simp only [Session.catalog,
        Session.insertAttributes_of_fresh (Tables.fresh_guessedEntries hints names)]
    exact written_eq hempty hwrite

/-- Names that are not empty are registered as far as they are unknown. -/
theorem ends_registerMissing (h : ∀ name ∈ s.current.unknown names, name ≠ "") :
    (Session.catalog.registerMissing hints names).Ends s
      (.ok (s.current.guessedEntries hints names))
      (s.add [] (s.current.guessedEntries hints names)) := by
  rw [← written_guessedEntries, ← newEntries_attributesNamed]
  refine ends_registerMissing_of_eq rfl ?_
  rw [notFound_attributesNamed]
  exact fun hempty => h "" hempty rfl

theorem ends_registerMissing_of_mem (h : "" ∈ s.current.unknown names) :
    (Session.catalog.registerMissing hints names).Ends s
      (.error (.entry .attributeNameRequired)) s :=
  ends_registerMissing_of_empty rfl ((notFound_attributesNamed names s).symm ▸ h)

/-- The attributes of a formula are registered as far as they are unknown, and the second look
finds all of them. -/
theorem ends_validate (hints : List String) {f : Formula}
    (h : ∀ name ∈ s.current.unknown f.attributes, name ≠ "") :
    (Session.catalog.validate hints f).Ends s (.ok ())
      (s.add [] (s.current.guessedEntries hints f.attributes)) := by
  have hverdict : verdict f.attributes
      ((s.add [] (s.current.guessedEntries hints f.attributes)).attributesNamed
        f.attributes.eraseDups) = .ok () := by
    refine verdict_of_notFound ?_
    rw [notFound_attributesNamed]
    exact Tables.unknown_append []
  rw [← hverdict]
  refine ends_validate_of_eq rfl ?_ ?_
  · rw [notFound_attributesNamed]
    exact fun hempty => h "" hempty rfl
  · rw [newEntries_attributesNamed, written_guessedEntries]
    rfl

/-- Registration adds what is missing, or nothing at all. -/
theorem change_registerMissing (hints names : List String) (s : Session) :
    s.Change (Session.catalog.registerMissing hints names s).state := by
  by_cases h : "" ∈ s.current.unknown names
  · exact .of_eq (ends_registerMissing_of_mem h).state_eq
  · rw [(ends_registerMissing fun name hname hempty => h (hempty ▸ hname)).state_eq]
    exact .add [] _ (fresh_nil _) (Tables.fresh_guessedEntries hints names)

theorem change_validate (hints : List String) (f : Formula) (s : Session) :
    s.Change (Session.catalog.validate hints f s).state := by
  by_cases h : "" ∈ s.current.unknown f.attributes
  · exact .of_eq ((ends_registerMissing_of_mem h).bind_error _).state_eq
  · rw [(ends_validate hints fun name hname hempty => h (hempty ▸ hname)).state_eq]
    exact .add [] _ (fresh_nil _) (Tables.fresh_guessedEntries hints f.attributes)

end Catalog

end Eligibility

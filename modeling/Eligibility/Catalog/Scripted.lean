import Eligibility.Catalog.Registration

/-!
# A scripted catalog

A catalog whose writes behave as prescribed, and which remembers what it was asked. It shows
what registration does when writes fail, or succeed only in appearance.
-/

namespace Eligibility

/-- What a write to a scripted catalog does. -/
inductive WriteBehaviour where
  /-- The attributes are added. -/
  | adds
  /-- The write fails. -/
  | fails
  /-- The attributes are added, and yet the write fails. -/
  | addsAndFails
  /-- The write succeeds, and yet nothing is added. -/
  | loses
deriving DecidableEq, Repr

namespace WriteBehaviour

/-- The write leaves its attributes in the catalog. -/
def isVisible : WriteBehaviour → Bool
  | .adds => true
  | .addsAndFails => true
  | _ => false

/-- The write reports success. -/
def succeeds : WriteBehaviour → Bool
  | .adds => true
  | .loses => true
  | _ => false

end WriteBehaviour

/-- The state of a scripted catalog: its attributes, and the questions and writes so far. -/
structure Script where
  attributes : List Attribute
  queries : List (List String)
  inserts : List (List Attribute)

/-- A catalog with attributes of these names, which has not been asked anything. -/
def Script.ofNames (names : List String) : Script :=
  ⟨names.map fun name => ⟨name, .string, none⟩, [], []⟩

/-- The catalog whose writes behave as prescribed. -/
def Catalog.scripted (behaviour : WriteBehaviour) : Catalog Script where
  findByNames names s :=
    (s.attributes.filter fun a => names.contains a.name,
      { s with queries := s.queries ++ [names] })
  insertMany added s :=
    (if behaviour.succeeds then .ok () else .error ⟨"disk full"⟩,
      { s with
        attributes := if behaviour.isVisible then s.attributes ++ added else s.attributes
        inserts := s.inserts ++ [added] })

end Eligibility

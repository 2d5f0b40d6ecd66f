import Eligibility.Action
import Eligibility.RuleBook.Error
import Eligibility.Rule.Formula

/-!
# Registration of attributes

Before a rule is stored, every attribute that it mentions has to be in the catalog. Unknown
attributes are registered on the way, with a type guessed from the name. Whether the rule
can go ahead is decided by a second look at the catalog, whatever the registration reported.
-/

namespace Eligibility

/-- A catalog of attributes kept in a state. A write may fail, and what it leaves in the
state is its own affair. -/
structure Catalog (σ : Type) where
  findByNames : List String → σ → List Attribute × σ
  insertMany : List Attribute → σ → Except CatalogWriteError Unit × σ

namespace Catalog

variable {σ : Type}

/-- The distinct names that the catalog does not have, in the order of their first
appearance. -/
def findMissing (catalog : Catalog σ) (names : List String) : Action σ RuleError (List String) := do
  let distinct := names.eraseDups
  let known ← .step (catalog.findByNames distinct)
  return distinct.filter fun name => !(known.map (·.name)).contains name

/-- The entry that is registered for a name. -/
def entryFor (hints : List String) (name : String) : Except RuleError Attribute :=
  (Attribute.make? name (.text (DataType.guess hints name).word) none).mapError .entry

/-- Registers the names that the catalog does not have, and gives the attributes that were
handed to it. -/
def registerMissing (catalog : Catalog σ) (hints names : List String) :
    Action σ RuleError (List Attribute) := do
  let missing ← catalog.findMissing names
  if missing.isEmpty then return []
  let attributes ← .ofExcept (missing.mapM (entryFor (hints.map Text.lower)))
  .note .info "Registering missing attributes"
    [("attributes", .texts missing), ("data_types", .texts (attributes.map (·.dataType.word)))]
  match ← .step (catalog.insertMany attributes) with
  | .ok () => .note .info "Attributes registered" [("attributes", .texts missing)]
  | .error e =>
      .note .warning "Attribute registration failed"
        [("attributes", .texts missing), ("error", .text e.reason)]
  return attributes

/-- Makes sure that the catalog has every attribute that a formula mentions. -/
def validate (catalog : Catalog σ) (hints : List String) (f : Formula) :
    Action σ RuleError Unit := do
  let _ ← catalog.registerMissing hints f.attributes
  match ← catalog.findMissing f.attributes with
  | [] => return ()
  | name :: _ =>
      .note .warning "Attribute validation failed" [("attribute", .text name)]
      .fail (.unknownAttribute name)

end Catalog

end Eligibility

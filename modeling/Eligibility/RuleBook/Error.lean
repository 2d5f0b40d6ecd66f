import Eligibility.Catalog.Attribute
import Eligibility.Rule.Combination
import Eligibility.Rule.Invalid
import Eligibility.Rule.SyntaxError

/-!
# Errors of the rule book

Why a request to the rule book or to the catalog of attributes fails.
-/

namespace Eligibility

/-- Attributes could not be written to the catalog. -/
structure CatalogWriteError where
  reason : String
deriving DecidableEq, Repr

/-- Some name of a batch of attributes is taken, or occurs twice in it. -/
def CatalogWriteError.namesTaken (names : List String) : CatalogWriteError :=
  ⟨"Could not register attributes: " ++ ", ".intercalate names⟩

/-- Why a request to the rule book fails. -/
inductive RuleError where
  /-- The text of a rule is malformed. -/
  | syntaxError (e : SyntaxError)
  /-- A number is not read, in the text of a rule or in a text that is compared with a number. -/
  | number (e : Number.ConversionError)
  /-- A stored document is no formula. -/
  | invalid (e : InvalidFormula)
  /-- A rule refers to an attribute that the catalog does not have. -/
  | unknownAttribute (name : String)
  /-- Rules of these names are not stored. -/
  | notFound (names : List String)
  /-- The name of a new rule is taken. -/
  | duplicate (name : String)
  /-- Formulas cannot be combined. -/
  | combination (e : CombinationError)
  /-- Attributes could not be written. -/
  | catalog (e : CatalogWriteError)
  /-- A name or text is missing, or a type of data is unknown. -/
  | entry (e : EntryError)

/-- The message of the error. -/
def RuleError.message : RuleError → String
  | .syntaxError e => e.message
  | .number e => e.message
  | .invalid e => e.message
  | .unknownAttribute name => s!"Attribute {name} is not in the catalog"
  | .notFound names => "The following rules do not exist: " ++ ", ".intercalate names
  | .duplicate name => s!"A rule with the name \"{name}\" already exists."
  | .combination e => e.message
  | .catalog e => e.reason
  | .entry e => e.message

/-- The failure of a request whose rule text is not read. -/
def RuleError.ofText : RuleTextError → RuleError
  | .syntaxError e => .syntaxError e
  | .number e => .number e

end Eligibility

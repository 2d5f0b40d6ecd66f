import Eligibility.Catalog.Attribute

/-!
# The store

Rules and attributes are kept in two tables, in the order in which they were inserted. No
two rules share a name, and no two attributes do. A session works on a copy of the tables:
what it does becomes permanent when it commits and is undone when it rolls back. An insert
that would repeat a name rolls the whole session back.
-/

namespace Eligibility

/-- A stored rule: its name, its text, and the document of its formula. -/
structure RuleRow where
  name : String
  text : String
  document : Value

/-- A document as the store gives it back. A document that is a number is kept as a number
and not as its text: a double becomes an integer where a word can hold it, and an integer
becomes a double where none can. -/
def Value.stored : Value → Value
  | .number (.int n) =>
      if Number.fitsWord n then .number (.int n)
      else .number (.double (.ofRatio (n < 0) n.natAbs 1))
  | .number (.double x) => .number (x.word?.elim (.double x) .int)
  | v => v

/-- The row of a name, a text and any document, as the store gives it back. -/
def RuleRow.raw (name text : String) (document : Value) : RuleRow := ⟨name, text, document.stored⟩

/-- The tables that the store has. -/
inductive TableName where
  | rules
  | attributes
deriving DecidableEq, Repr

/-- The word for a table. -/
def TableName.word : TableName → String
  | .rules => "rules"
  | .attributes => "attributes"

/-- The tables of the store, each in the order of insertion. -/
structure Tables where
  rules : List RuleRow
  attributes : List Attribute

/-- Nothing is stored. -/
def Tables.empty : Tables := ⟨[], []⟩

/-- A session: the tables as last committed and as the session sees them. -/
structure Session where
  committed : Tables
  current : Tables

namespace Session

/-- A session on the tables, with nothing pending. -/
def ofTables (tables : Tables) : Session := ⟨tables, tables⟩

/-- Makes the pending changes permanent. -/
def commit (s : Session) : Session := ⟨s.current, s.current⟩

/-- Undoes the pending changes. -/
def rollback (s : Session) : Session := ⟨s.committed, s.committed⟩

/-- The rule of a name, if it is stored. -/
def rule? (s : Session) (name : String) : Option RuleRow :=
  s.current.rules.find? fun row => row.name == name

/-- The rules whose names are asked for, in the order of insertion. -/
def rulesNamed (s : Session) (names : List String) : List RuleRow :=
  s.current.rules.filter fun row => names.contains row.name

/-- The attribute of a name, if it is known. -/
def attribute? (s : Session) (name : String) : Option Attribute :=
  s.current.attributes.find? fun a => a.name == name

/-- The attributes whose names are asked for, in the order of insertion. -/
def attributesNamed (s : Session) (names : List String) : List Attribute :=
  s.current.attributes.filter fun a => names.contains a.name

/-- All attributes by name. -/
def attributesByName (s : Session) : List Attribute :=
  s.current.attributes.mergeSort fun a b => !decide (b.name < a.name)

/-- Adds a rule without looking at it. -/
def addRule (s : Session) (row : RuleRow) : Session :=
  { s with current := { s.current with rules := s.current.rules ++ [row] } }

/-- Adds attributes without looking at them. -/
def addAttributes (s : Session) (added : List Attribute) : Session :=
  { s with current := { s.current with attributes := s.current.attributes ++ added } }

/-- Inserts a rule, and tells whether its name was free. -/
def insertRule (s : Session) (row : RuleRow) : Bool × Session :=
  if (s.rule? row.name).isSome then (false, s.rollback) else (true, s.addRule row)

/-- No name occurs twice in the list, and none of its names is known. -/
def areFree (s : Session) : List String → Bool
  | [] => true
  | name :: names => (s.attribute? name).isNone && !names.contains name && s.areFree names

/-- Inserts attributes, all or none, and tells whether their names were free. -/
def insertAttributes (s : Session) (added : List Attribute) : Bool × Session :=
  if s.areFree (added.map (·.name)) then (true, s.addAttributes added) else (false, s.rollback)

end Session

end Eligibility

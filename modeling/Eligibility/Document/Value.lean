import Eligibility.Number.Basic

/-!
# Documents

Records, stored formulas and the bodies of requests are documents: trees of lists and
objects over null, booleans, numbers and texts. An object keeps its fields in the order in
which they were first written.
-/

namespace Eligibility

/-- A document. -/
inductive Value where
  | null
  | bool (b : Bool)
  | number (n : Number)
  | text (s : String)
  | list (items : List Value)
  | object (fields : List (String × Value))
deriving Inhabited

/-- The fields of an object, in order. -/
abbrev Fields := List (String × Value)

/-- A record that rules are evaluated against: attribute names and their values. -/
abbrev Record := Fields

namespace Fields

/-- The value of a field, if the object has it. -/
def get? (fields : Fields) (key : String) : Option Value := List.lookup key fields

/-- The first field of a name counts. -/
theorem get?_cons (k key : String) (v : Value) (rest : Fields) :
    get? ((k, v) :: rest) key = if key = k then some v else get? rest key := by
  simp only [get?, List.lookup_cons]
  by_cases h : key = k
  · simp [h]
  · simp [h, beq_false_of_ne h]

/-- The value of a field, or null. -/
def get (fields : Fields) (key : String) : Value := (fields.get? key).getD .null

/-- The object has a field of this name. -/
def has (fields : Fields) (key : String) : Bool := (fields.get? key).isSome

/-- The fields after a field is written: it keeps its place if it was there, and comes last
if it was not. -/
def put (fields : Fields) (key : String) (value : Value) : Fields :=
  match fields with
  | [] => [(key, value)]
  | (k, v) :: rest => if k = key then (key, value) :: rest else (k, v) :: put rest key value

end Fields

namespace Value

/-- An integer document. -/
def ofInt (n : Int) : Value := .number (.int n)

/-- A natural number as a document. -/
def ofNat (n : Nat) : Value := ofInt n

/-- A list of texts. -/
def texts (ss : List String) : Value := .list (ss.map .text)

/-- A text, or null. -/
def ofText? (s : Option String) : Value := s.elim .null .text

/-- The name of the kind of a value in messages. -/
def kindName : Value → String
  | .null => "NoneType"
  | .bool _ => "bool"
  | .number (.int _) => "int"
  | .number (.double _) => "float"
  | .text _ => "str"
  | .list _ => "list"
  | .object _ => "dict"

mutual

/-- No number in the document is an infinity or not-a-number. Only such documents have a
portable written form. -/
def allFinite : Value → Bool
  | .number n => n.isFinite
  | .list items => allFiniteItems items
  | .object fields => allFiniteFields fields
  | _ => true

/-- Every item holds finite numbers only. -/
def allFiniteItems : List Value → Bool
  | [] => true
  | v :: vs => allFinite v && allFiniteItems vs

/-- Every field holds finite numbers only. -/
def allFiniteFields : List (String × Value) → Bool
  | [] => true
  | (_, v) :: fs => allFinite v && allFiniteFields fs

end

end Value

end Eligibility

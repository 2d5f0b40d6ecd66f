import Eligibility.Document.Value

/-!
# Checked values

Values that come from outside are checked field by field. A check gives a value or the
faults it found; checks of several fields are joined so that all their faults are kept, in
the order of the fields.
-/

namespace Eligibility

/-- What is wrong with a field. -/
inductive FaultKind where
  | missing
  | textExpected
  | textTooShort
  | textTooLong
  | textPattern
  | listExpected
  | listTooShort
  | objectExpected
  | oneOfExpected
  | memberExpected
  | bodyExpected
  | malformedDocument
  | integerExpected
  | integerUnreadable
  | integerFractional
  | integerTooLarge
  | numberNotFinite
  | tooSmall
  | truthExpected
  | truthUnreadable
  | rejected (message : String)
deriving DecidableEq, Repr

/-- The word for a fault. -/
def FaultKind.word : FaultKind → String
  | .missing => "missing"
  | .textExpected => "string_type"
  | .textTooShort => "string_too_short"
  | .textTooLong => "string_too_long"
  | .textPattern => "string_pattern_mismatch"
  | .listExpected => "list_type"
  | .listTooShort => "too_short"
  | .objectExpected => "dict_type"
  | .oneOfExpected => "literal_error"
  | .memberExpected => "enum"
  | .bodyExpected => "model_attributes_type"
  | .malformedDocument => "json_invalid"
  | .integerExpected => "int_type"
  | .integerUnreadable => "int_parsing"
  | .integerFractional => "int_from_float"
  | .integerTooLarge => "int_parsing_size"
  | .numberNotFinite => "finite_number"
  | .tooSmall => "greater_than_equal"
  | .truthExpected => "bool_type"
  | .truthUnreadable => "bool_parsing"
  | .rejected _ => "value_error"

/-- A fault, the place of the field that has it, and the value that was found there. Where a
field is missing, the value is the object that lacks it. -/
structure Fault where
  path : List String
  kind : FaultKind
  given : Value

/-- The fault one level further out. -/
def Fault.inside (key : String) (f : Fault) : Fault := { f with path := key :: f.path }

/-- A value that passed its checks, or the faults that were found. -/
inductive Checked (α : Type) where
  | ok (a : α)
  | faulty (faults : List Fault)

namespace Checked

variable {α β : Type}

/-- A function and a value, with the faults of both. -/
protected def seq (f : Checked (α → β)) (a : Checked α) : Checked β :=
  match f, a with
  | .ok f, .ok a => .ok (f a)
  | .ok _, .faulty later => .faulty later
  | .faulty earlier, .ok _ => .faulty earlier
  | .faulty earlier, .faulty later => .faulty (earlier ++ later)

instance : Applicative Checked where
  pure := .ok
  seq f a := Checked.seq f (a ())

/-- A value with one fault, at the value itself. -/
def fault (kind : FaultKind) (given : Value) : Checked α := .faulty [⟨[], kind, given⟩]

/-- A further check of a value that passed the first one. -/
def andThen (a : Checked α) (f : α → Checked β) : Checked β :=
  match a with
  | .ok a => f a
  | .faulty faults => .faulty faults

/-- The check of a field, with its faults placed inside the whole. -/
def inside (key : String) : Checked α → Checked α
  | .ok a => .ok a
  | .faulty faults => .faulty (faults.map (Fault.inside key))

/-- The result or the faults. -/
def toExcept : Checked α → Except (List Fault) α
  | .ok a => .ok a
  | .faulty faults => .error faults

/-- A text. -/
def text : Value → Checked String
  | .text s => .ok s
  | v => fault .textExpected v

/-- The fields of an object. -/
def fields : Value → Checked Fields
  | .object fields => .ok fields
  | v => fault .objectExpected v

/-- A list of items. -/
def items : Value → Checked (List Value)
  | .list items => .ok items
  | v => fault .listExpected v

/-- The texts of a list, which begins at a position of the whole list. -/
def textsFrom (position : Nat) : List Value → Checked (List String)
  | [] => .ok []
  | v :: vs =>
      pure List.cons <*> (text v).inside (toString position) <*> textsFrom (position + 1) vs

/-- A list of texts. -/
def texts (v : Value) : Checked (List String) := (items v).andThen (textsFrom 0)

/-- A member of a family that is told by its word. -/
def choice (kind : FaultKind) (ofWord? : String → Option α) : Value → Checked α
  | .text s =>
      match ofWord? s with
      | some a => .ok a
      | none => fault kind (.text s)
  | v => fault kind v

end Checked

end Eligibility

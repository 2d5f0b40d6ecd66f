import Eligibility.Document.Value

/-!
# Formulas

A rule says what a record has to satisfy. Its formula is a tree: comparisons of one
attribute with a literal, joined by AND and OR. Formulas get as deep as chains get long, so
they are folded with an explicit list of work; `fold_eq_recurse` says that this is plain
recursion on the tree, and `run_visit` that no step of the work ever lacks a result.
-/

namespace Eligibility

/-- The two ways to join formulas. -/
inductive Connective where
  | and
  | or
deriving DecidableEq, Repr

namespace Connective

/-- The keyword of a connective. -/
def keyword : Connective → String
  | .and => "AND"
  | .or => "OR"

/-- The connective of a keyword. -/
def ofKeyword? (s : String) : Option Connective :=
  if s = "AND" then some .and else if s = "OR" then some .or else none

/-- The connective that a document names. -/
def ofValue? : Value → Option Connective
  | .text s => ofKeyword? s
  | _ => none

theorem ofKeyword?_keyword (op : Connective) : ofKeyword? op.keyword = some op := by
  cases op <;> rfl

end Connective

/-- What an attribute is compared with. -/
inductive Literal where
  | text (s : String)
  | number (n : Number)
deriving DecidableEq, Repr

namespace Literal

/-- The literal as a document. -/
def toValue : Literal → Value
  | .text s => .text s
  | .number n => .number n

/-- Equal texts, or exactly equal numbers. -/
def same : Literal → Literal → Bool
  | .text s, .text t => s == t
  | .number m, .number n => m.equal n
  | _, _ => false

end Literal

/-- The comparison of the attribute of a name with a literal. The operator is kept as
written; whether it means anything shows when the comparison is evaluated. -/
structure Comparison where
  name : String
  operator : String
  value : Literal
deriving DecidableEq, Repr

/-- The same attribute, operator and literal. -/
def Comparison.same (c d : Comparison) : Bool :=
  c.operator == d.operator && c.name == d.name && c.value.same d.value

/-- A rule as a tree. -/
inductive Formula where
  | atom (c : Comparison)
  | join (op : Connective) (left right : Formula)
deriving DecidableEq, Repr

namespace Formula

/-! ## Folding -/

section Fold

variable {α : Type} (onAtom : Comparison → α) (onJoin : Connective → Formula → Formula → α → α → α)

/-- The value of a formula from the values of its parts, left before right. -/
def recurse : Formula → α
  | .atom c => onAtom c
  | .join op left right => onJoin op left right (recurse left) (recurse right)

/-- A piece of work on the way through a tree. -/
inductive Step where
  | visit (f : Formula)
  | build (op : Connective) (left right : Formula)

/-- The number of steps that a formula gives rise to. -/
def weight : Formula → Nat
  | .atom _ => 1
  | .join _ left right => left.weight + right.weight + 2

/-- The number of steps that a piece of work gives rise to. -/
def Step.weight : Step → Nat
  | .visit f => f.weight
  | .build .. => 1

/-- The number of steps that a list of work gives rise to. -/
def totalWeight : List Step → Nat
  | [] => 0
  | s :: work => s.weight + totalWeight work

/-- Works through a list of steps with the results so far, latest first. There is no answer
when a step finds fewer results than it needs. -/
def run : List Step → List α → Option (List α)
  | [], results => some results
  | .visit (.atom c) :: work, results => run work (onAtom c :: results)
  | .visit (.join op left right) :: work, results =>
      run (.visit left :: .visit right :: .build op left right :: work) results
  | .build op left right :: work, r :: l :: results =>
      run work (onJoin op left right l r :: results)
  | .build .. :: _, _ => none
termination_by work => totalWeight work
decreasing_by all_goals simp [totalWeight, Step.weight, weight] <;> omega

/-- A visit leaves one result, that of the recursion, and touches nothing else. -/
theorem run_visit (f : Formula) (work : List Step) (results : List α) :
    run onAtom onJoin (.visit f :: work) results =
      run onAtom onJoin work (recurse onAtom onJoin f :: results) := by
  induction f generalizing work results with
  | atom c => simp [run, recurse]
  | join op left right ihl ihr => simp [run, recurse, ihl, ihr]

/-- The work on a formula ends with exactly one result. -/
theorem run_single (f : Formula) :
    run onAtom onJoin [.visit f] [] = some [recurse onAtom onJoin f] := by
  simp [run_visit, run]

/-- The fold of a formula. -/
def fold (f : Formula) : α :=
  ((run onAtom onJoin [.visit f] []).bind List.head?).get (by simp [run_single])

/-- Folding is recursion on the tree. -/
theorem fold_eq_recurse (f : Formula) : fold onAtom onJoin f = recurse onAtom onJoin f := by
  simp [fold, run_single]

@[simp] theorem fold_atom (c : Comparison) : fold onAtom onJoin (.atom c) = onAtom c := by
  simp [fold_eq_recurse, recurse]

@[simp] theorem fold_join (op : Connective) (left right : Formula) :
    fold onAtom onJoin (.join op left right) =
      onJoin op left right (fold onAtom onJoin left) (fold onAtom onJoin right) := by
  simp [fold_eq_recurse, recurse]

end Fold

/-- The formula built anew from its parts. -/
def copy (f : Formula) : Formula := fold .atom (fun op _ _ left right => .join op left right) f

/-! ## Comparisons of a formula -/

/-- The comparisons of a list of formulas, in order. -/
def collect : List Formula → List Comparison
  | [] => []
  | .atom c :: rest => c :: collect rest
  | .join _ left right :: rest => collect (left :: right :: rest)
termination_by work => totalWeight (work.map .visit)
decreasing_by all_goals simp [totalWeight, Step.weight, weight] <;> omega

/-- The comparisons of a formula, from left to right. -/
def comparisons (f : Formula) : List Comparison := collect [f]

theorem collect_cons (f : Formula) (rest : List Formula) :
    collect (f :: rest) = f.comparisons ++ collect rest := by
  unfold comparisons
  induction f generalizing rest with
  | atom c => simp [collect]
  | join op left right ihl ihr => rw [collect, collect, ihl, ihl [right], ihr, List.append_assoc]

@[simp] theorem comparisons_atom (c : Comparison) : comparisons (.atom c) = [c] := by
  simp [comparisons, collect]

@[simp] theorem comparisons_join (op : Connective) (left right : Formula) :
    comparisons (.join op left right) = left.comparisons ++ right.comparisons := by
  rw [comparisons, collect, collect_cons, ← comparisons]

/-- The attributes that a formula mentions, from left to right and with repetitions. -/
def attributes (f : Formula) : List String := f.comparisons.map (·.name)

/-! ## Shape -/

/-- Equal trees, with numbers compared by value. -/
def same : Formula → Formula → Bool
  | .atom c, .atom d => c.same d
  | .join op l r, .join op' l' r' => op == op' && l.same l' && r.same r'
  | _, _ => false

/-- The number of levels; a comparison alone is one. -/
def depth (f : Formula) : Nat := fold (fun _ => 1) (fun _ _ _ l r => max l r + 1) f

/-- The number of joins from the root along the left. -/
def leftSpine : Formula → Nat
  | .atom _ => 0
  | .join _ left _ => left.leftSpine + 1

end Formula

end Eligibility

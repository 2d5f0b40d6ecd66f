import Eligibility.Number.Binary64

/-!
# Numbers and their order

A number is an integer of any size or a double. Both stand on one scale, counted in units
of `2 ^ -1074`, with an infinity at either end; on that scale comparisons are exact. Only
not-a-number has no place on it, and no comparison with it holds.
-/

namespace Eligibility

/-- An integer or a double. -/
inductive Number where
  | int (n : Int)
  | double (x : Number.Binary64)
deriving DecidableEq, Repr

namespace Number

/-- A place on the scale of numbers. -/
inductive Place where
  | bottom
  | units (n : Int)
  | top
deriving DecidableEq, Repr

/-- The order of two places. -/
def Place.compare : Place → Place → Ordering
  | .bottom, .bottom => .eq
  | .bottom, _ => .lt
  | _, .bottom => .gt
  | .top, .top => .eq
  | .top, _ => .gt
  | _, .top => .lt
  | .units m, .units n => Ord.compare m n

/-- The place of a number; not-a-number has none. -/
def place? : Number → Option Place
  | .int n => some (.units (n * unitsPerOne))
  | .double .nan => none
  | .double (.infinity negative) => some (if negative then .bottom else .top)
  | .double (.finite negative rank) =>
      let units : Int := unitsOfRank rank
      some (.units (if negative then -units else units))

/-- The order of two numbers, unless one of them is not a number. -/
def compare? (x y : Number) : Option Ordering :=
  match x.place?, y.place? with
  | some p, some q => some (p.compare q)
  | _, _ => none

/-- Exactly equal. -/
def equal (x y : Number) : Bool := x.compare? y == some .eq

/-- Exactly less. -/
def less (x y : Number) : Bool := x.compare? y == some .lt

/-- Less or equal. -/
def atMost (x y : Number) : Bool := x.less y || x.equal y

/-- The integer that a double is, if it is finite and has no fraction. -/
def Binary64.integer? : Binary64 → Option Int
  | .finite negative rank =>
      let units := unitsOfRank rank
      if units % unitsPerOne = 0 then
        let n : Int := (units / unitsPerOne : Nat)
        some (if negative then -n else n)
      else none
  | _ => none

/-- One more than the largest integer of sixty-four bits with a sign. -/
def wordLimit : Nat := Nat.pow 2 63

/-- The integer has sixty-four bits with its sign. -/
def fitsWord (n : Int) : Bool := -(wordLimit : Int) ≤ n && n < wordLimit

/-- The integer that a double is, if its magnitude is one of sixty-four bits with a sign. The
least integer of a word is left out, although it is a double. -/
def Binary64.word? (x : Binary64) : Option Int := x.integer?.filter fun n => n.natAbs < wordLimit

/-- The number has a place between the infinities. -/
def isFinite : Number → Bool
  | .int _ => true
  | .double x => x.isFinite

end Number

end Eligibility

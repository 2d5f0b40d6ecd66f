import Eligibility.Number.Binary64
import Eligibility.Number.Digits

/-!
# Decimals and doubles

A decimal is a whole number scaled by a power of ten. `toBinary64` reads a decimal as the
nearest double, and `shortest` goes the other way: among the decimals that read back to a
magnitude it finds the fewest digits, and of those the nearest.
-/

namespace Eligibility.Number

/-- The magnitude `coefficient * 10 ^ exponent`. -/
structure Decimal where
  coefficient : Nat
  exponent : Int
deriving DecidableEq, Repr

namespace Decimal

/-- The rank of the magnitude nearest to a decimal. -/
def rank (d : Decimal) : Nat :=
  if 0 ≤ d.exponent then nearestRank (d.coefficient * Nat.pow 10 d.exponent.toNat) 1
  else nearestRank d.coefficient (Nat.pow 10 (-d.exponent).toNat)

/-- The double nearest to a decimal with a sign. A decimal that is far above the largest
double, or far below the least, is recognised by its size alone, so that its power of ten
is never formed. -/
def toBinary64 (negative : Bool) (d : Decimal) : Binary64 :=
  if d.coefficient = 0 then .ofRank negative 0
  else if 400 < d.exponent then .infinity negative
  else if d.exponent + (d.coefficient.log2 / 3 + 1 : Nat) < -400 then .ofRank negative 0
  else .ofRank negative d.rank

/-- The same magnitude without zeros at the end of its coefficient. -/
def normalize (d : Decimal) : Decimal :=
  if d.coefficient ≠ 0 ∧ d.coefficient % 10 = 0 then
    normalize ⟨d.coefficient / 10, d.exponent + 1⟩
  else d
termination_by d.coefficient
decreasing_by omega

end Decimal

/-- The magnitude of a rank, exactly. -/
def exactDecimal (rank : Nat) : Decimal := ⟨unitsOfRank rank * Nat.pow 5 1074, -1074⟩

/-- The magnitude of a rank on the decimal grid `10 ^ exponent`, as a quotient. -/
def onGrid (rank : Nat) (exponent : Int) : Nat × Nat :=
  if 0 ≤ exponent then (unitsOfRank rank, unitsPerOne * Nat.pow 10 exponent.toNat)
  else (unitsOfRank rank * Nat.pow 10 (-exponent).toNat, unitsPerOne)

/-- The magnitude of a rank is below `10 ^ exponent`. -/
def belowPower (rank : Nat) (exponent : Int) : Bool :=
  let (num, den) := onGrid rank exponent
  num < den

/-- The number of digits before the point of a magnitude: the least power of ten above it.
The binary logarithm gives it up to two steps. -/
def pointPosition (rank : Nat) : Int :=
  let estimate := (((unitsOfRank rank).log2 : Int) - 1074) * 30103 / 100000
  if belowPower rank estimate then estimate
  else if belowPower rank (estimate + 1) then estimate + 1
  else estimate + 2

/-- The two neighbours of a quotient among the whole numbers, the nearer one first, and of
two that are equally near the even one. -/
def neighbours (num den : Nat) : Nat × Nat :=
  let lower := num / den
  let upperFirst := match compare (2 * num) ((2 * lower + 1) * den) with
    | .lt => false
    | .gt => true
    | .eq => lower % 2 == 1
  if upperFirst then (lower + 1, lower) else (lower, lower + 1)

/-- The neighbour with a given number of digits that reads back to the rank, if any. -/
def candidate (rank : Nat) (point : Int) (size : Nat) : Option Decimal :=
  let exponent := point - size
  let (num, den) := onGrid rank exponent
  let (near, far) := neighbours num den
  [near, far].findSome? fun coefficient =>
    let d := Decimal.normalize ⟨coefficient, exponent⟩
    if d.toBinary64 false = .ofRank false rank then some d else none

/-- The decimal with the fewest digits that reads back to the magnitude of a rank. Up to
seventeen digits are tried, which suffice for every double; the exact magnitude, which
always reads back, stands behind them. -/
def shortest (rank : Nat) : Decimal :=
  if rank = 0 then ⟨0, 0⟩
  else
    ((List.range 17).findSome? fun i => candidate rank (pointPosition rank) (i + 1)).getD
      (exactDecimal rank)

end Eligibility.Number

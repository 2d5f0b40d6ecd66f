import Eligibility.Number.Basic
import Mathlib.Algebra.Order.Field.Basic
import Mathlib.Algebra.Order.Field.Rat
import Mathlib.Data.Rat.Cast.Order
import Mathlib.Order.Compare
import Mathlib.Order.WithBot

/-!
# The order of numbers

Integers and doubles are compared by their places on a scale of whole units. This is the order of
the rational numbers that they stand for, with the infinities at its ends (`value?`): nothing is
rounded on the way, however large the integer or small the double.

* `value?_eq` — the value of a number is that of its place;
* `less_eq`, `equal_eq`, `atMost_eq` — each comparison decides the order of the values;
* `equal_comm`, `equal_trans` — equality goes both ways and carries on, but not-a-number is equal to
  nothing, itself included.
-/

namespace Eligibility.Number

/-- The rational numbers with an infinity at either end. -/
abbrev Extended := WithBot (WithTop ℚ)

/-- The magnitude of a rank, from the two parts of its bits: an exponent, and a fraction of
fifty-two bits behind it. Under the least exponent the fraction stands for itself, and under every
other one there is a leading one before it. -/
def magnitude (rank : Nat) : ℚ :=
  if rank / blockSize = 0 then rank / unitsPerOne
  else (blockSize + rank % blockSize : Nat) * 2 ^ (rank / blockSize) / (2 * unitsPerOne)

/-- The exact value of a number; not-a-number has none. -/
def value? : Number → Option Extended
  | .int n => some ((n : ℚ) : WithTop ℚ)
  | .double .nan => none
  | .double (.infinity negative) => some (if negative then ⊥ else ⊤)
  | .double (.finite negative rank) =>
      some ((if negative then -magnitude rank else magnitude rank : ℚ) : WithTop ℚ)

theorem exists_value {x : Number} (h : x ≠ .double .nan) : ∃ p, x.value? = some p := by
  match x with
  | .int _ => exact ⟨_, rfl⟩
  | .double .nan => exact absurd rfl h
  | .double (.infinity _) => exact ⟨_, rfl⟩
  | .double (.finite ..) => exact ⟨_, rfl⟩

/-! ## Values of places -/

theorem cast_unitsPerOne_pos : (0 : ℚ) < unitsPerOne := Nat.cast_pos.mpr (by decide +kernel)

/-- The magnitude of a rank is its number of units. -/
theorem magnitude_eq (rank : Nat) : magnitude rank = unitsOfRank rank / unitsPerOne := by
  rw [magnitude]
  split
  · rename_i hblock
    have hunits : unitsOfRank rank = rank := by
      simp only [unitsOfRank, hblock, Nat.zero_sub, Nat.zero_mul, Nat.sub_zero, Nat.pow_zero,
        Nat.pow_eq, Nat.mul_one]
    rw [hunits]
  · rename_i hblock
    obtain ⟨doublings, hdoublings⟩ := Nat.exists_eq_succ_of_ne_zero hblock
    have hunits : unitsOfRank rank = (blockSize + rank % blockSize) * 2 ^ doublings := by
      have hdiv := Nat.div_add_mod rank blockSize
      rw [hdoublings, Nat.mul_succ, Nat.mul_comm] at hdiv
      have hplace : rank - doublings * blockSize = blockSize + rank % blockSize := by omega
      simp only [unitsOfRank, hdoublings, Nat.succ_sub_one, hplace, Nat.pow_eq]
    rw [hunits, hdoublings, pow_succ', Nat.cast_mul, Nat.cast_pow, Nat.cast_ofNat,
      mul_left_comm, mul_div_mul_left _ _ two_ne_zero]

/-- The value at a place. -/
def Place.value : Place → Extended
  | .bottom => ⊥
  | .units n => ((n / unitsPerOne : ℚ) : WithTop ℚ)
  | .top => ⊤

/-- The value of a number is that of its place. -/
theorem value?_eq (x : Number) : x.value? = x.place?.map Place.value := by
  match x with
  | .int n =>
      have hunits : ((n * unitsPerOne : Int) : ℚ) / unitsPerOne = n := by
        rw [Int.cast_mul, Int.cast_natCast, mul_div_cancel_right₀ _ cast_unitsPerOne_pos.ne']
      rw [value?, place?, Option.map_some, Place.value, hunits]
  | .double .nan => rfl
  | .double (.infinity true) => rfl
  | .double (.infinity false) => rfl
  | .double (.finite true rank) =>
      have hunits : ((-(unitsOfRank rank : Int) : Int) : ℚ) / unitsPerOne = -magnitude rank := by
        rw [magnitude_eq, Int.cast_neg, Int.cast_natCast, neg_div]
      simp only [value?, place?, Option.map_some, Place.value, if_true, hunits]
  | .double (.finite false rank) =>
      have hunits : ((unitsOfRank rank : Int) : ℚ) / unitsPerOne = magnitude rank := by
        rw [magnitude_eq, Int.cast_natCast]
      simp only [value?, place?, Option.map_some, Place.value, Bool.false_eq_true, if_false, hunits]

theorem Place.value_units_lt {m n : Int} (h : m < n) :
    (Place.units m).value < (Place.units n).value := by
  refine WithBot.coe_lt_coe.mpr (WithTop.coe_lt_coe.mpr ?_)
  exact (div_lt_div_iff_of_pos_right cast_unitsPerOne_pos).mpr (Int.cast_lt.mpr h)

/-- Places are ordered as their values are. -/
theorem Place.compare_eq (a b : Place) : a.compare b = cmp a.value b.value := by
  have hunits : StrictMono fun n => (Place.units n).value := fun _ _ h => Place.value_units_lt h
  have hbottom (n : Int) : Place.bottom.value < (Place.units n).value := WithBot.bot_lt_coe _
  have htop (n : Int) : (Place.units n).value < Place.top.value :=
    WithBot.coe_lt_coe.mpr (WithTop.coe_lt_top _)
  match a, b with
  | .units m, .units n =>
      exact (cmp_eq_compare m n).symm.trans (hunits.cmp_map_eq m n).symm
  | .bottom, .units n => exact ((cmp_eq_lt_iff _ _).mpr (hbottom n)).symm
  | .units n, .bottom => exact ((cmp_eq_gt_iff _ _).mpr (hbottom n)).symm
  | .units n, .top => exact ((cmp_eq_lt_iff _ _).mpr (htop n)).symm
  | .top, .units n => exact ((cmp_eq_gt_iff _ _).mpr (htop n)).symm
  | .bottom, .top => exact ((cmp_eq_lt_iff _ _).mpr ((hbottom 0).trans (htop 0))).symm
  | .top, .bottom => exact ((cmp_eq_gt_iff _ _).mpr ((hbottom 0).trans (htop 0))).symm
  | .bottom, .bottom => exact (cmp_self_eq_eq _).symm
  | .top, .top => exact (cmp_self_eq_eq _).symm

/-! ## Comparisons -/

section Comparisons

variable {x y : Number} {p q : Extended}

/-- Numbers are ordered as their values are. -/
theorem compare?_eq (hx : x.value? = some p) (hy : y.value? = some q) :
    x.compare? y = some (cmp p q) := by
  rw [value?_eq] at hx hy
  obtain ⟨a, hplace, rfl⟩ := Option.map_eq_some_iff.mp hx
  obtain ⟨b, hplace', rfl⟩ := Option.map_eq_some_iff.mp hy
  rw [compare?, hplace, hplace', ← Place.compare_eq]

theorem less_eq (hx : x.value? = some p) (hy : y.value? = some q) : x.less y = decide (p < q) := by
  rw [less, compare?_eq hx hy, Bool.eq_iff_iff, beq_iff_eq, Option.some_inj, cmp_eq_lt_iff,
    decide_eq_true_iff]

theorem equal_eq (hx : x.value? = some p) (hy : y.value? = some q) :
    x.equal y = decide (p = q) := by
  rw [equal, compare?_eq hx hy, Bool.eq_iff_iff, beq_iff_eq, Option.some_inj, cmp_eq_eq_iff,
    decide_eq_true_iff]

theorem atMost_eq (hx : x.value? = some p) (hy : y.value? = some q) :
    x.atMost y = decide (p ≤ q) := by
  rw [atMost, less_eq hx hy, equal_eq hx hy, ← Bool.decide_or]
  exact decide_eq_decide.mpr le_iff_lt_or_eq.symm

/-- Numbers are equal if they have an exact value in common. Not-a-number has none to share. -/
theorem equal_iff : x.equal y = true ↔ ∃ p, x.value? = some p ∧ y.value? = some p := by
  constructor
  · intro h
    cases hx : x.place? with
    | none => simp [equal, compare?, hx] at h
    | some a =>
        cases hy : y.place? with
        | none => simp [equal, compare?, hx, hy] at h
        | some b =>
            have hvalue : x.value? = some a.value := by rw [value?_eq, hx, Option.map_some]
            have hvalue' : y.value? = some b.value := by rw [value?_eq, hy, Option.map_some]
            rw [equal_eq hvalue hvalue', decide_eq_true_iff] at h
            exact ⟨a.value, hvalue, h ▸ hvalue'⟩
  · rintro ⟨p, hx, hy⟩
    rw [equal_eq hx hy, decide_eq_true_iff]

theorem equal_comm (x y : Number) : x.equal y = y.equal x := by
  rw [Bool.eq_iff_iff, equal_iff, equal_iff]
  exact exists_congr fun _ => and_comm

theorem equal_trans {z : Number} (hxy : x.equal y = true) (hyz : y.equal z = true) :
    x.equal z = true := by
  obtain ⟨p, hx, hy⟩ := equal_iff.mp hxy
  obtain ⟨q, hy', hz⟩ := equal_iff.mp hyz
  obtain rfl : p = q := Option.some.inj (hy.symm.trans hy')
  exact equal_iff.mpr ⟨p, hx, hz⟩

end Comparisons

end Eligibility.Number

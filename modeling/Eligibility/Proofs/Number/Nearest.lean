import Mathlib.Algebra.Group.Nat.Defs
import Eligibility.Number.Decimal

/-!
# Doubles and the decimals that read back to them

`nearestRank` rounds a quotient to the magnitudes of doubles, and `Decimal.toBinary64` reads a
decimal by it, with two shortcuts for powers of ten that are too large to be formed. This
module shows what the rest of the development needs of the two:

* the rank depends on the value of the quotient alone (`nearestRank_congr`), and of a quotient
  that is a magnitude it is that magnitude's own (`nearestRank_of_exact`);
* the shortcuts change no result (`Decimal.toBinary64_eq`);
* the shortest decimal of a magnitude reads back to it (`rank_shortest`), also where none of the
  seventeen candidate sizes is accepted.
-/

namespace Eligibility.Number

theorem blockSize_pos : 0 < blockSize := by decide

/-! ## Rounding a quotient -/

/-- Rounding sees a quotient only. -/
theorem roundHalfEven_mul_right (num den : Nat) {c : Nat} (hc : 0 < c) :
    roundHalfEven (num * c) (den * c) = roundHalfEven num den := by
  have hlt : 2 * (num % den * c) < den * c ↔ 2 * (num % den) < den := by
    rw [← Nat.mul_assoc, Nat.mul_lt_mul_right hc]
  have hgt : den * c < 2 * (num % den * c) ↔ den < 2 * (num % den) := by
    rw [← Nat.mul_assoc, Nat.mul_lt_mul_right hc]
  simp only [roundHalfEven, Nat.mul_div_mul_right _ _ hc, Nat.mul_mod_mul_right, hlt, hgt]

/-- A whole quotient is not rounded. -/
theorem roundHalfEven_exact (quotient : Nat) {den : Nat} (hden : 0 < den) :
    roundHalfEven (den * quotient) den = quotient := by
  simp [roundHalfEven, Nat.mul_div_cancel_left _ hden, hden]

/-- Rounding goes down at most to the whole number below. -/
theorem div_le_roundHalfEven (num den : Nat) : num / den ≤ roundHalfEven num den := by
  simp only [roundHalfEven]
  split
  · exact Nat.le_refl _
  · split
    · exact Nat.le_succ _
    · split
      · exact Nat.le_refl _
      · exact Nat.le_succ _

/-- The nearest rank sees a quotient only. -/
theorem nearestRank_mul_right (num den : Nat) {c : Nat} (hc : 0 < c) :
    nearestRank (num * c) (den * c) = nearestRank num den := by
  simp only [nearestRank]
  rw [Nat.mul_right_comm num c, Nat.mul_div_mul_right _ _ hc, Nat.mul_right_comm den c,
    roundHalfEven_mul_right _ _ hc]

/-- Two ways to write one quotient have the same nearest rank. -/
theorem nearestRank_congr {num den num' den' : Nat} (hden : 0 < den) (hden' : 0 < den')
    (h : num * den' = num' * den) : nearestRank num den = nearestRank num' den' := by
  rw [← nearestRank_mul_right num den hden', h, ← nearestRank_mul_right num' den' hden,
    Nat.mul_comm den den']

/-! ## Exact magnitudes -/

/-- A rank is a number of doublings and a place in a block of that spacing; only the first
block lies below its first full spacing. -/
theorem exists_doublings (rank : Nat) : ∃ doublings place,
    rank = doublings * blockSize + place ∧ unitsOfRank rank = place * 2 ^ doublings ∧
      place < 2 * blockSize ∧ (doublings = 0 ∨ blockSize ≤ place) := by
  have hdiv := Nat.div_add_mod rank blockSize
  have hmod := Nat.mod_lt rank blockSize_pos
  cases hblock : rank / blockSize with
  | zero =>
      refine ⟨0, rank, by simp, by simp [unitsOfRank, hblock], ?_, .inl rfl⟩
      rw [hblock] at hdiv
      omega
  | succ doublings =>
      rw [hblock, Nat.mul_succ, Nat.mul_comm] at hdiv
      have hplace : rank - doublings * blockSize = blockSize + rank % blockSize := by omega
      refine ⟨doublings, blockSize + rank % blockSize, by omega, ?_, by omega, .inr (by omega)⟩
      simp only [unitsOfRank, hblock, Nat.add_sub_cancel, hplace, Nat.pow_eq]

/-- The spacing of a block is read off the binary logarithm of its magnitudes. -/
theorem log2_sub_of_place {place doublings : Nat} (hplace : place < 2 * blockSize)
    (hfull : doublings = 0 ∨ blockSize ≤ place) :
    Nat.log2 (place * 2 ^ doublings) - 52 = doublings := by
  have hblock : blockSize = 2 ^ 52 := by decide
  rw [hblock, ← Nat.pow_succ'] at hplace
  rcases hfull with rfl | hfull
  · by_cases hzero : place = 0
    · simp [hzero]
    · have hlog : place.log2 < 53 := (Nat.log2_lt hzero).mpr hplace
      rw [Nat.pow_zero, Nat.mul_one]
      omega
  · rw [hblock] at hfull
    have hpos : place * 2 ^ doublings ≠ 0 := by
      have := Nat.pos_of_ne_zero (fun h => by omega : place ≠ 0)
      have := Nat.two_pow_pos doublings
      exact Nat.mul_ne_zero (by omega) (by omega)
    have hlower : 52 + doublings ≤ (place * 2 ^ doublings).log2 := by
      rw [Nat.le_log2 hpos, Nat.pow_add]
      exact Nat.mul_le_mul_right _ hfull
    have hupper : (place * 2 ^ doublings).log2 < 53 + doublings := by
      rw [Nat.log2_lt hpos, Nat.pow_add]
      exact Nat.mul_lt_mul_of_pos_right hplace (Nat.two_pow_pos _)
    omega

/-- The nearest rank of a magnitude is its own. -/
theorem nearestRank_of_exact {num den rank : Nat} (hden : 0 < den)
    (h : num * unitsPerOne = den * unitsOfRank rank) : nearestRank num den = rank := by
  obtain ⟨doublings, place, hrank, hunits, hplace, hfull⟩ := exists_doublings rank
  have hlog : Nat.log2 (num * unitsPerOne / den) - 52 = doublings := by
    rw [h, Nat.mul_div_cancel_left _ hden, hunits, log2_sub_of_place hplace hfull]
  have hspread : num * unitsPerOne = den * Nat.pow 2 doublings * place := by
    rw [h, hunits, Nat.pow_eq, Nat.mul_assoc, Nat.mul_comm place]
  simp only [nearestRank]
  rw [hlog, hspread, roundHalfEven_exact, hrank]
  exact Nat.mul_pos hden (Nat.two_pow_pos doublings)

/-! ## The ends of the scale -/

/-- The last block ends at `2 ^ 2098` units: a quotient as large as that is nearest to no
magnitude. -/
theorem magnitudeCount_le_nearestRank {num den large : Nat} (hden : 0 < den)
    (hlarge : 2 ^ 2098 ≤ large * unitsPerOne) (h : den * large ≤ num) :
    magnitudeCount ≤ nearestRank num den := by
  have hunits : 2 ^ 2098 ≤ num * unitsPerOne / den := by
    apply Nat.le_trans hlarge
    rw [Nat.le_div_iff_mul_le hden, Nat.mul_right_comm, Nat.mul_comm large]
    exact Nat.mul_le_mul_right _ h
  have hne : num * unitsPerOne / den ≠ 0 :=
    Nat.ne_of_gt (Nat.lt_of_lt_of_le (Nat.two_pow_pos _) hunits)
  have hpower : ∀ power, 2 ^ power ≤ num * unitsPerOne / den →
      power ≤ (num * unitsPerOne / den).log2 := fun _ => (Nat.le_log2 hne).mpr
  have hlog := hpower 2098 hunits
  simp only [nearestRank]
  generalize hdoublings : (num * unitsPerOne / den).log2 - 52 = doublings
  have hfull : blockSize ≤ num * unitsPerOne / (den * Nat.pow 2 doublings) := by
    rw [← Nat.div_div_eq_div_mul, Nat.pow_eq, Nat.le_div_iff_mul_le (Nat.two_pow_pos _),
      show blockSize = 2 ^ 52 by decide, ← Nat.pow_add,
      show 52 + doublings = (num * unitsPerOne / den).log2 by omega]
    exact Nat.log2_self_le hne
  have hround := div_le_roundHalfEven (num * unitsPerOne) (den * Nat.pow 2 doublings)
  have hblocks : 2046 * blockSize ≤ doublings * blockSize := Nat.mul_le_mul_right _ (by omega)
  have hcount : magnitudeCount = 2046 * blockSize + blockSize := by decide
  omega

/-- A quotient below half a unit is nearest to zero. -/
theorem nearestRank_eq_zero {num den : Nat} (h : 2 * (num * unitsPerOne) < den) :
    nearestRank num den = 0 := by
  have hzero : num * unitsPerOne / den = 0 := Nat.div_eq_of_lt (by omega)
  have hmod : num * unitsPerOne % den = num * unitsPerOne := Nat.mod_eq_of_lt (by omega)
  simp [nearestRank, roundHalfEven, hzero, hmod, h]

namespace Decimal

/-- The value of a decimal as one quotient, with a power of ten on the side that needs it. -/
theorem rank_eq (d : Decimal) :
    d.rank = nearestRank (d.coefficient * 10 ^ d.exponent.toNat) (10 ^ (-d.exponent).toNat) := by
  unfold rank
  split
  · rename_i h
    rw [show (-d.exponent).toNat = 0 by omega]
    rfl
  · rename_i h
    rw [show d.exponent.toNat = 0 by omega, Nat.pow_zero, Nat.mul_one]
    rfl

/-- Far above the largest double. -/
theorem magnitudeCount_le_rank {d : Decimal} (hpos : d.coefficient ≠ 0) (h : 400 < d.exponent) :
    magnitudeCount ≤ d.rank := by
  rw [rank_eq, show (-d.exponent).toNat = 0 by omega]
  -- a variable for the power keeps the elaborator from forming it
  obtain ⟨power, hpower⟩ : ∃ power : Nat, power = 401 := ⟨_, rfl⟩
  have hlarge : 2 ^ 2098 ≤ 10 ^ power * unitsPerOne := by
    rw [hpower]
    decide +kernel
  apply magnitudeCount_le_nearestRank (Nat.pow_pos (by decide)) hlarge
  calc 10 ^ 0 * 10 ^ power = 10 ^ power := by rw [Nat.pow_zero, Nat.one_mul]
    _ ≤ 10 ^ d.exponent.toNat := Nat.pow_le_pow_right (by decide) (by omega)
    _ ≤ d.coefficient * 10 ^ d.exponent.toNat :=
        Nat.le_mul_of_pos_left _ (Nat.pos_of_ne_zero hpos)

/-- Far below half the least double. The binary logarithm bounds the number of digits. -/
theorem rank_eq_zero {d : Decimal}
    (h : d.exponent + (d.coefficient.log2 / 3 + 1 : Nat) < -400) : d.rank = 0 := by
  generalize hsize : d.coefficient.log2 / 3 + 1 = size at h
  obtain ⟨power, hpower⟩ : ∃ power : Nat, power = 400 := ⟨_, rfl⟩
  have hcoefficient : d.coefficient < 10 ^ size := by
    calc d.coefficient < 2 ^ (d.coefficient.log2 + 1) := Nat.lt_log2_self
      _ ≤ 2 ^ (3 * size) := Nat.pow_le_pow_right (by decide) (by omega)
      _ = 8 ^ size := by rw [Nat.pow_mul]
      _ ≤ 10 ^ size := Nat.pow_le_pow_left (by decide) _
  have hsmall : 2 * unitsPerOne ≤ 10 ^ power := by
    rw [hpower]
    decide +kernel
  rw [rank_eq, show d.exponent.toNat = 0 by omega, Nat.pow_zero, Nat.mul_one]
  apply nearestRank_eq_zero
  calc 2 * (d.coefficient * unitsPerOne) = d.coefficient * (2 * unitsPerOne) := by
        rw [Nat.mul_left_comm]
    _ ≤ d.coefficient * 10 ^ power := Nat.mul_le_mul_left _ hsmall
    _ < 10 ^ size * 10 ^ power :=
        Nat.mul_lt_mul_of_pos_right hcoefficient (Nat.pow_pos (by decide))
    _ = 10 ^ (size + power) := (Nat.pow_add ..).symm
    _ ≤ 10 ^ (-d.exponent).toNat := Nat.pow_le_pow_right (by decide) (by omega)

/-- The shortcuts of `toBinary64` change no result. -/
theorem toBinary64_eq (negative : Bool) (d : Decimal) :
    d.toBinary64 negative = .ofRank negative d.rank := by
  unfold toBinary64
  split
  · rename_i hzero
    have hrank : d.rank = 0 := by
      rw [rank_eq, hzero, Nat.zero_mul]
      apply nearestRank_eq_zero
      rw [Nat.zero_mul, Nat.mul_zero]
      exact Nat.pow_pos (by decide)
    rw [hrank]
  · rename_i hpos
    split
    · rename_i hhigh
      have hcount := magnitudeCount_le_rank hpos hhigh
      simp [Binary64.ofRank, Nat.not_lt.mpr hcount]
    · split
      · rename_i hlow
        rw [rank_eq_zero hlow]
      · rfl

end Decimal

/-! ## The shortest decimal -/

/-- A decimal reads back to a magnitude exactly if that is its rank. -/
theorem rank_eq_of_toBinary64 {d : Decimal} {negative : Bool} {rank : Nat}
    (hrank : rank < magnitudeCount) (h : d.toBinary64 negative = .ofRank negative rank) :
    d.rank = rank := by
  rw [Decimal.toBinary64_eq] at h
  unfold Binary64.ofRank at h
  rw [dif_pos hrank] at h
  split at h
  · simpa using h
  · exact absurd h (by simp)

/-- The exact magnitude of a rank reads back to it. -/
theorem rank_exactDecimal (rank : Nat) : (exactDecimal rank).rank = rank := by
  obtain ⟨power, hpower⟩ : ∃ power : Nat, power = (-(-1074 : Int)).toNat := ⟨_, rfl⟩
  have hpowers : Nat.pow 5 1074 * unitsPerOne = 10 ^ power := by
    rw [hpower]
    decide +kernel
  rw [Decimal.rank_eq, exactDecimal, ← hpower]
  apply nearestRank_of_exact (Nat.pow_pos (by decide))
  show unitsOfRank rank * Nat.pow 5 1074 * 1 * unitsPerOne = 10 ^ power * unitsOfRank rank
  rw [Nat.mul_one, Nat.mul_assoc, hpowers, Nat.mul_comm]

/-- A candidate was accepted because it reads back. -/
theorem rank_of_candidate {rank : Nat} {point : Int} {size : Nat} {d : Decimal}
    (hrank : rank < magnitudeCount) (h : candidate rank point size = some d) : d.rank = rank := by
  simp only [candidate] at h
  obtain ⟨coefficient, _, hfound⟩ := List.exists_of_findSome?_eq_some h
  split at hfound
  · rename_i hback
    obtain rfl := Option.some.inj hfound
    exact rank_eq_of_toBinary64 hrank hback
  · exact absurd hfound (by simp)

/-- The shortest decimal of a magnitude reads back to it. -/
theorem rank_shortest {rank : Nat} (hrank : rank < magnitudeCount) : (shortest rank).rank = rank := by
  unfold shortest
  split
  · rename_i hzero
    rw [hzero, Decimal.rank_eq]
    exact nearestRank_eq_zero (by decide +kernel)
  · cases hfound : (List.range 17).findSome? fun i =>
        candidate rank (pointPosition rank) (i + 1) with
    | none => exact rank_exactDecimal rank
    | some d =>
        obtain ⟨_, _, hcandidate⟩ := List.exists_of_findSome?_eq_some hfound
        exact rank_of_candidate hrank hcandidate

end Eligibility.Number

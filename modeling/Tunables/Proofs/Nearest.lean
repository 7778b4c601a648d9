import Tunables.Proofs.Shortest

/-!
# Nearest doubles

A whole number of units rounds to the rank that is nearest to it, and to the even one of
two that are equally near.  So a whole number has a nearest double below the overflow
limit, and from there on it rounds to an infinity.
-/

namespace Tunables.Binary64

variable {numerator denominator units shift multiple : Nat}

/-- A multiple of a step is at most half a step from a number, and less than that when it
is an odd multiple. -/
def IsNearest (multiple step number : Nat) : Prop :=
  2 * (multiple * step) ≤ 2 * number + step ∧ 2 * number ≤ 2 * (multiple * step) + step ∧
    (multiple % 2 = 1 →
      2 * (multiple * step) < 2 * number + step ∧ 2 * number < 2 * (multiple * step) + step)

theorem isNearest_roundQuotient (positive : 0 < denominator) :
    IsNearest (roundQuotient numerator denominator) denominator numerator := by
  have split := Nat.div_add_mod' numerator denominator
  have rest := Nat.mod_lt numerator positive
  have next : (numerator / denominator + 1) * denominator =
      numerator / denominator * denominator + denominator := Nat.succ_mul _ _
  unfold IsNearest roundQuotient
  dsimp only
  split
  · omega
  · split
    · omega
    · rcases Nat.mod_two_eq_zero_or_one (numerator / denominator) with even | odd
      · rw [even, Nat.add_zero]
        omega
      · rw [odd]
        omega

/-- The ranks of a scale are its significands in order, up to the first one of the next
scale. -/
theorem unitsOfRank_add (least : 2 ^ 52 ≤ multiple) (most : multiple ≤ 2 ^ 53) (shift : Nat) :
    unitsOfRank (shift * 2 ^ 52 + multiple) = multiple * 2 ^ shift := by
  have inside : ∀ {shift multiple : Nat}, 2 ^ 52 ≤ multiple → multiple < 2 ^ 53 →
      unitsOfRank (shift * 2 ^ 52 + multiple) = multiple * 2 ^ shift := by
    intro shift multiple least most
    have quotient : (shift * 2 ^ 52 + multiple) / 2 ^ 52 = shift + 1 := by omega
    have remainder : (shift * 2 ^ 52 + multiple) % 2 ^ 52 = multiple - 2 ^ 52 := by omega
    simp only [unitsOfRank, significand, scale, Nat.pow_eq, quotient, remainder,
      Nat.add_sub_cancel]
    rw [if_neg (by omega), Nat.add_sub_of_le least]
  rcases Nat.lt_or_eq_of_le most with below | rfl
  · exact inside least below
  · have next : shift * 2 ^ 52 + 2 ^ 53 = (shift + 1) * 2 ^ 52 + 2 ^ 52 := by omega
    rw [next, inside (Nat.le_refl _) (by decide), Nat.pow_succ]
    omega

theorem roundsTo_natCast_iff {rank halfUnits : Nat} :
    RoundsTo rank (halfUnits : ℚ) ↔
      unitsOfRank (rank - 1) + unitsOfRank rank ≤ halfUnits ∧
        halfUnits ≤ unitsOfRank rank + unitsOfRank (rank + 1) ∧
        (rank % 2 = 1 → unitsOfRank (rank - 1) + unitsOfRank rank < halfUnits ∧
          halfUnits < unitsOfRank rank + unitsOfRank (rank + 1)) := by
  unfold RoundsTo
  norm_cast
  split
  · omega
  · omega

/-- Small whole numbers of units are magnitudes themselves. -/
theorem unitsOfRank_of_lt (small : units < 2 ^ 53) : unitsOfRank units = units := by
  rcases Nat.lt_or_ge units (2 ^ 52) with below | above
  · have quotient : units / 2 ^ 52 = 0 := Nat.div_eq_of_lt below
    simp only [unitsOfRank, significand, scale, Nat.pow_eq, if_pos below, quotient,
      Nat.zero_sub, Nat.pow_zero, Nat.mul_one]
  · have same := unitsOfRank_add above small.le 0
    rwa [Nat.zero_mul, Nat.zero_add, Nat.pow_zero, Nat.mul_one] at same

/-- On one scale the nearest multiple of its step is the significand that a number rounds
to. -/
theorem roundsTo_of_isNearest (least : 2 ^ 52 * 2 ^ shift ≤ units)
    (most : units < 2 ^ 53 * 2 ^ shift) (first : 2 ^ 52 ≤ multiple) (last : multiple ≤ 2 ^ 53)
    (near : IsNearest multiple (2 ^ shift) units) :
    RoundsTo (shift * 2 ^ 52 + multiple) ((2 * units : Nat) : ℚ) := by
  have here := unitsOfRank_add first last shift
  have before := strictMono_unitsOfRank (Nat.sub_one_lt (n := shift * 2 ^ 52 + multiple) (by omega))
  have after := strictMono_unitsOfRank (Nat.lt_add_one (shift * 2 ^ 52 + multiple))
  -- At the ends of the scale the neighbour lies on another scale; there the bounds on the
  -- number itself are enough.
  have below : multiple = 2 ^ 52 ∨
      unitsOfRank (shift * 2 ^ 52 + multiple - 1) + 2 ^ shift = multiple * 2 ^ shift := by
    rcases Nat.eq_or_lt_of_le first with same | later
    · exact .inl same.symm
    · have neighbour : shift * 2 ^ 52 + multiple - 1 = shift * 2 ^ 52 + (multiple - 1) := by omega
      rw [neighbour, unitsOfRank_add (by omega) (by omega), ← Nat.succ_mul, Nat.succ_eq_add_one,
        Nat.sub_add_cancel (by omega)]
      exact .inr rfl
  have above : multiple = 2 ^ 53 ∨
      unitsOfRank (shift * 2 ^ 52 + multiple + 1) = multiple * 2 ^ shift + 2 ^ shift := by
    rcases Nat.eq_or_lt_of_le last with same | earlier
    · exact .inl same
    · rw [Nat.add_assoc, unitsOfRank_add (by omega) (by omega), Nat.succ_mul]
      exact .inr rfl
  have parity : (shift * 2 ^ 52 + multiple) % 2 = multiple % 2 := by omega
  rw [here] at before after
  rw [roundsTo_natCast_iff, here, parity]
  unfold IsNearest at near
  rcases below with rfl | below
  · omega
  · rcases above with rfl | above
    · omega
    · omega

/-- A whole number of units rounds to its nearest rank. -/
theorem roundsTo_nearestRank (units : Nat) :
    RoundsTo (nearestRank units 1) ((2 * units : Nat) : ℚ) := by
  have below : units < 2 ^ (units.log2 + 1) := Nat.lt_log2_self
  rw [nearestRank, Nat.div_one, Nat.pow_eq, Nat.one_mul]
  rcases Nat.lt_or_ge units.log2 52 with small | large
  · have fits : units < 2 ^ 52 :=
      Nat.lt_of_lt_of_le below (Nat.pow_le_pow_right Nat.two_pos small)
    have noShift : units.log2 - 52 = 0 := by omega
    have exact : roundQuotient units 1 = units := by simp [roundQuotient, Nat.mod_one]
    rw [noShift, Nat.pow_eq, Nat.pow_zero, exact, Nat.zero_mul, Nat.zero_add, roundsTo_natCast_iff,
      unitsOfRank_of_lt (by omega), unitsOfRank_of_lt (by omega), unitsOfRank_of_lt (by omega)]
    omega
  · obtain ⟨shift, exponent⟩ : ∃ shift, units.log2 = 52 + shift :=
      ⟨units.log2 - 52, by omega⟩
    have nonzero : units ≠ 0 := by
      rintro rfl
      exact absurd large (by decide)
    have least : 2 ^ 52 * 2 ^ shift ≤ units := by
      rw [← Nat.pow_add, ← exponent]
      exact Nat.log2_self_le nonzero
    have most : units < 2 ^ 53 * 2 ^ shift := by
      rwa [← Nat.pow_add, show 53 + shift = units.log2 + 1 by omega]
    have positive := Nat.two_pow_pos shift
    rw [exponent, Nat.add_sub_cancel_left, Nat.pow_eq]
    refine roundsTo_of_isNearest least most ?_ ?_ (isNearest_roundQuotient positive)
    · exact Nat.le_trans ((Nat.le_div_iff_mul_le positive).mpr least) (div_le_roundQuotient _ _)
    · exact Nat.le_trans (roundQuotient_le_succ_div _ _)
        (Nat.succ_le_of_lt ((Nat.div_lt_iff_lt_mul positive).mpr most))

theorem ofDecimal_whole (negative : Bool) (coefficient : Nat) :
    ofDecimal negative coefficient 0 = ofQuotient negative coefficient 1 := by
  have exponent : (0 : Int) = .ofNat 0 := rfl
  unfold ofDecimal
  split
  · next zero =>
      have rank : nearestRank 0 1 = 0 := by decide
      rw [ofQuotient, zero, Nat.zero_mul, rank]
  · rw [exponent]
    dsimp only
    rw [if_neg (by decide), Nat.pow_eq, Nat.pow_zero, Nat.mul_one]

variable {n : Int}

/-- Below the overflow limit a whole number has a nearest double. -/
theorem exists_ofQuotient_eq_finite (small : n.natAbs < overflowLimit) :
    ∃ rank inRange, RoundsTo rank (n.natAbs * (2 * unitsPerOne)) ∧
      ofQuotient (decide (n < 0)) n.natAbs 1 = .finite (decide (n < 0)) rank inRange := by
  have rounds := roundsTo_nearestRank (n.natAbs * unitsPerOne)
  rw [← Nat.not_le, ← ofInt?_eq_none_iff, ofInt?_eq_none_iff_rank, Nat.not_le] at small
  refine ⟨_, small, ?_, ofRank_of_lt small⟩
  convert rounds using 1
  push_cast
  ring

/-- From the overflow limit on a whole number is nearest to an infinity. -/
theorem ofQuotient_eq_infinite (large : overflowLimit ≤ n.natAbs) :
    ofQuotient (decide (n < 0)) n.natAbs 1 = .infinite (decide (n < 0)) :=
  ofRank_of_le (ofInt?_eq_none_iff_rank.mp (ofInt?_eq_none_iff.mpr large))

end Tunables.Binary64

import Mathlib.Algebra.Order.Field.Power
import Mathlib.Data.Rat.Cast.Order
import Mathlib.Tactic.FieldSimp
import Mathlib.Tactic.Linarith
import Mathlib.Tactic.NormNum
import Mathlib.Tactic.Positivity
import Mathlib.Tactic.Ring
import Tunables.Binary64.Shortest
import Tunables.Proofs.Bound

/-!
# Shortest decimals read back

The reals that round to a finite magnitude form an interval, and no real rounds to
two magnitudes.  A decimal of seventeen digits lies in each interval, so the
shortest decimal of a magnitude is in the interval of this magnitude and in no
other.
-/

namespace Tunables.Binary64

/-! ## Magnitudes in order -/

variable {rank other : Nat}

theorem significand_lt (rank : Nat) : significand rank < 2 ^ 53 := by
  simp only [significand, Nat.pow_eq]
  split <;> omega

theorem scale_le_scale (ordered : rank ≤ other) : scale rank ≤ scale other :=
  Nat.sub_le_sub_right (Nat.div_le_div_right ordered) 1

/-- The next magnitude is one step of the scale away. -/
theorem unitsOfRank_succ (rank : Nat) :
    unitsOfRank (rank + 1) = unitsOfRank rank + 2 ^ scale rank := by
  simp only [unitsOfRank, significand, scale, Nat.pow_eq]
  by_cases carries : (rank + 1) % 2 ^ 52 = 0
  · have quotient : (rank + 1) / 2 ^ 52 = rank / 2 ^ 52 + 1 := by omega
    have remainder : rank % 2 ^ 52 = 2 ^ 52 - 1 := by omega
    rw [if_neg (by omega), carries, quotient, remainder, Nat.add_sub_cancel]
    cases scaled : rank / 2 ^ 52 with
    | zero =>
        rw [if_pos (by omega)]
        omega
    | succ exponent =>
        rw [if_neg (by omega), Nat.add_sub_cancel, Nat.pow_succ]
        omega
  · have quotient : (rank + 1) / 2 ^ 52 = rank / 2 ^ 52 := by omega
    have remainder : (rank + 1) % 2 ^ 52 = rank % 2 ^ 52 + 1 := by omega
    rw [quotient, remainder]
    split
    · rw [if_pos (by omega), Nat.add_mul, Nat.one_mul]
    · rw [if_neg (by omega), ← Nat.add_assoc, Nat.add_mul _ 1, Nat.one_mul]

theorem strictMono_unitsOfRank : StrictMono unitsOfRank := by
  apply strictMono_nat_of_lt_succ
  intro rank
  rw [unitsOfRank_succ]
  exact Nat.lt_add_of_pos_right (Nat.two_pow_pos _)

/-- A magnitude is less than `2 ^ 53` steps of the scale below it. -/
theorem unitsOfRank_succ_le (rank : Nat) :
    unitsOfRank (rank + 1) ≤ 2 ^ 53 * 2 ^ scale rank := by
  rw [unitsOfRank_succ, unitsOfRank, Nat.pow_eq, ← Nat.succ_mul]
  exact Nat.mul_le_mul_right _ (significand_lt rank)

/-! ## The reals that round to a magnitude -/

/-- A number of half units that rounds to the magnitude of a rank; the two ends of the
interval do when the rank is even. -/
def RoundsTo (rank : Nat) (halfUnits : ℚ) : Prop :=
  if rank % 2 = 0 then
    (unitsOfRank (rank - 1) + unitsOfRank rank : ℚ) ≤ halfUnits ∧
      halfUnits ≤ unitsOfRank rank + unitsOfRank (rank + 1)
  else
    (unitsOfRank (rank - 1) + unitsOfRank rank : ℚ) < halfUnits ∧
      halfUnits < unitsOfRank rank + unitsOfRank (rank + 1)

variable {halfUnits : ℚ}

theorem RoundsTo.bounds (rounds : RoundsTo rank halfUnits) :
    (unitsOfRank (rank - 1) + unitsOfRank rank : ℚ) ≤ halfUnits ∧
      halfUnits ≤ unitsOfRank rank + unitsOfRank (rank + 1) := by
  unfold RoundsTo at rounds
  split at rounds
  · exact rounds
  · exact ⟨rounds.1.le, rounds.2.le⟩

theorem RoundsTo.of_between (above : (unitsOfRank (rank - 1) + unitsOfRank rank : ℚ) < halfUnits)
    (below : halfUnits < unitsOfRank rank + unitsOfRank (rank + 1)) : RoundsTo rank halfUnits := by
  unfold RoundsTo
  split
  · exact ⟨above.le, below.le⟩
  · exact ⟨above, below⟩

theorem roundsTo_zero : RoundsTo 0 0 := by
  rw [RoundsTo, if_pos rfl]
  constructor
  · simp [unitsOfRank, significand]
  · positivity

theorem RoundsTo.not_lt (first : RoundsTo rank halfUnits) (second : RoundsTo other halfUnits) :
    ¬ rank < other := by
  intro less
  obtain ⟨before, rfl⟩ : ∃ before, other = before + 1 := ⟨other - 1, by omega⟩
  have above := first.bounds.2
  have below := second.bounds.1
  rw [Nat.add_sub_cancel] at below
  rcases Nat.lt_or_eq_of_le (Nat.le_of_lt_succ less) with apart | rfl
  · have lower : (unitsOfRank rank : ℚ) < unitsOfRank before :=
      Nat.cast_lt.mpr (strictMono_unitsOfRank apart)
    have upper : (unitsOfRank (rank + 1) : ℚ) < unitsOfRank (before + 1) :=
      Nat.cast_lt.mpr (strictMono_unitsOfRank (Nat.succ_lt_succ apart))
    linarith
  · -- Neighbouring intervals share an end, which belongs to the even rank only.
    rcases Nat.mod_two_eq_zero_or_one rank with even | odd
    · rw [RoundsTo, if_neg (by omega), Nat.add_sub_cancel] at second
      exact absurd (second.1.trans_le above) (lt_irrefl _)
    · rw [RoundsTo, if_neg (by omega)] at first
      exact absurd (first.2.trans_le below) (lt_irrefl _)

/-- No number rounds to two magnitudes. -/
theorem RoundsTo.unique (first : RoundsTo rank halfUnits) (second : RoundsTo other halfUnits) :
    rank = other :=
  Nat.le_antisymm (Nat.not_lt.mp (second.not_lt first)) (Nat.not_lt.mp (first.not_lt second))

/-! ## Decimals -/

/-- The number that a decimal stands for. -/
def Decimal.value (d : Decimal) : ℚ :=
  d.coefficient * 10 ^ d.exponent

variable {d : Decimal} {units : Nat}

theorem unitsPerOne_pos : 0 < unitsPerOne := by
  rw [unitsPerOne_eq]
  generalize 1074 = exponent
  exact Nat.two_pow_pos exponent

theorem Decimal.halfUnits_eq (d : Decimal) :
    (d.halfUnits.1 : ℚ) = d.value * (2 * unitsPerOne) * d.halfUnits.2 ∧ 0 < d.halfUnits.2 := by
  obtain ⟨coefficient, exponent⟩ := d
  simp only [halfUnits, value]
  generalize unitsPerOne = unit
  cases exponent with
  | ofNat power =>
      refine ⟨?_, Nat.one_pos⟩
      simp only [Nat.pow_eq, Int.ofNat_eq_natCast, zpow_natCast]
      push_cast
      ring
  | negSucc less =>
      refine ⟨?_, Nat.pow_pos (by decide)⟩
      simp only [Nat.pow_eq, zpow_negSucc]
      push_cast
      field_simp

theorem Decimal.readsBackTo_iff :
    d.readsBackTo rank = true ↔ RoundsTo rank (d.value * (2 * unitsPerOne)) := by
  obtain ⟨exact, positive⟩ := d.halfUnits_eq
  have positive : (0 : ℚ) < d.halfUnits.2 := Nat.cast_pos.mpr positive
  simp only [readsBackTo, RoundsTo, beq_iff_eq]
  generalize d.value * (2 * (unitsPerOne : ℚ)) = value at exact
  split
  · rw [Bool.and_eq_true, decide_eq_true_iff, decide_eq_true_iff, ← Nat.cast_le (α := ℚ),
      ← Nat.cast_le (α := ℚ), exact]
    push_cast
    rw [mul_le_mul_iff_left₀ positive, mul_le_mul_iff_left₀ positive]
  · rw [Bool.and_eq_true, decide_eq_true_iff, decide_eq_true_iff, ← Nat.cast_lt (α := ℚ),
      ← Nat.cast_lt (α := ℚ), exact]
    push_cast
    rw [mul_lt_mul_iff_left₀ positive, mul_lt_mul_iff_left₀ positive]

theorem Decimal.value_dropZeros (d : Decimal) (fuel : Nat) : (d.dropZeros fuel).value = d.value := by
  induction fuel generalizing d with
  | zero => rfl
  | succ fuel ih =>
      rw [dropZeros]
      split
      · next divides =>
          rw [Bool.and_eq_true, beq_iff_eq] at divides
          have whole : d.coefficient = d.coefficient / 10 * 10 := by omega
          have cast : (d.coefficient : ℚ) = (d.coefficient / 10 : Nat) * 10 := by exact_mod_cast whole
          rw [ih, value, value, cast, zpow_add₀ (by norm_num), zpow_one]
          ring
      · rfl

theorem exists_pointPosition_eq : ∃ shift : Nat, unitsPerOne ≤ 10 ^ shift ∧
    ∀ units, pointPosition units =
      (digitCount (units * Nat.pow 10 shift / unitsPerOne) : Int) - (shift : Nat) := by
  refine ⟨330, by decide +kernel, fun units => ?_⟩
  rewrite [pointPosition, ← Nat.cast_ofNat (R := Int) (n := 330)]
  generalize 330 = shift
  rfl

/-- The power of ten below the decimal point of a magnitude is not above it. -/
theorem zpow_pointPosition_le (positive : 0 < units) :
    (10 : ℚ) ^ (pointPosition units - 1) * unitsPerOne ≤ units := by
  obtain ⟨shift, enough, position⟩ := exists_pointPosition_eq
  rw [position units, Nat.pow_eq]
  have one := unitsPerOne_pos
  generalize unitsPerOne = unit at enough one
  generalize shifted : units * 10 ^ shift / unit = whole
  have present : 0 < whole := by
    rw [← shifted]
    exact Nat.div_pos (Nat.le_trans enough (Nat.le_mul_of_pos_left _ positive)) one
  obtain ⟨more, count⟩ : ∃ more, digitCount whole = more + 1 :=
    ⟨digitCount whole - 1, (Nat.succ_pred_eq_of_pos Nat.length_toDigits_pos).symm⟩
  have least : 10 ^ more ≤ whole := by
    rcases Nat.eq_zero_or_pos more with rfl | several
    · exact present
    · apply Nat.not_lt.mp
      rw [← Nat.length_toDigits_le_iff (by decide) several]
      change ¬ digitCount whole ≤ more
      omega
  have product : 10 ^ more * unit ≤ units * 10 ^ shift := by
    refine Nat.le_trans (Nat.mul_le_mul_right _ least) ?_
    rw [← shifted]
    exact Nat.div_mul_le_self _ _
  have power : (10 : ℚ) ^ ((digitCount whole : Int) - shift - 1) = 10 ^ more / 10 ^ shift := by
    rw [count, ← zpow_natCast, ← zpow_natCast, ← zpow_sub₀ (by norm_num)]
    congr 1
    push_cast
    ring
  rw [power, div_mul_eq_mul_div, div_le_iff₀ (by positivity)]
  exact_mod_cast product

/-- The neighbours of a magnitude on a decimal grid are one step of the grid apart, and the
magnitude lies between them. -/
theorem exists_gridNeighbours_eq (rank digits : Nat) :
    ∃ whole : Nat,
      gridNeighbours rank digits =
        (⟨whole, pointPosition (unitsOfRank rank) - digits⟩,
          ⟨whole + 1, pointPosition (unitsOfRank rank) - digits⟩) ∧
      (whole : ℚ) * 10 ^ (pointPosition (unitsOfRank rank) - digits) * unitsPerOne ≤
        unitsOfRank rank ∧
      (unitsOfRank rank : ℚ) <
        (whole + 1) * 10 ^ (pointPosition (unitsOfRank rank) - digits) * unitsPerOne := by
  have one := unitsPerOne_pos
  refine ⟨_, rfl, ?_⟩
  generalize pointPosition (unitsOfRank rank) - digits = exponent
  generalize unitsOfRank rank = units
  cases exponent with
  | ofNat power =>
      dsimp only
      generalize unitsPerOne = unit at one
      have step : 0 < 10 ^ power * unit := by positivity
      have below := Nat.div_mul_le_self units (10 ^ power * unit)
      have above := Nat.lt_mul_div_succ units step
      rw [Nat.pow_eq]
      generalize units / (10 ^ power * unit) = whole at below above
      rw [Int.ofNat_eq_natCast, zpow_natCast, mul_assoc, mul_assoc, mul_comm ((whole : ℚ) + 1)]
      exact ⟨by exact_mod_cast below, by exact_mod_cast above⟩
  | negSucc less =>
      dsimp only
      generalize unitsPerOne = unit at one
      have below := Nat.div_mul_le_self (units * 10 ^ (less + 1)) unit
      have above := Nat.lt_mul_div_succ (units * 10 ^ (less + 1)) one
      rw [Nat.pow_eq]
      generalize units * 10 ^ (less + 1) / unit = whole at below above
      have positive : (0 : ℚ) < 10 ^ (less + 1) := by positivity
      rw [zpow_negSucc, mul_right_comm, mul_right_comm _ _ (unit : ℚ), ← div_eq_mul_inv,
        ← div_eq_mul_inv, div_le_iff₀ positive, lt_div_iff₀ positive, mul_comm ((whole : ℚ) + 1)]
      exact ⟨by exact_mod_cast below, by exact_mod_cast above⟩

/-! ## The shortest decimal -/

theorem nearerOf_eq_or (rank : Nat) (below above : Decimal) :
    nearerOf rank below above = below ∨ nearerOf rank below above = above := by
  unfold nearerOf
  generalize below.halfUnits = low
  generalize above.halfUnits = high
  dsimp only
  split
  · exact .inl rfl
  · split
    · exact .inr rfl
    · split
      · exact .inl rfl
      · exact .inr rfl

/-- Stated of the function itself: applied to arguments, both sides would be computed. -/
theorem candidate?_eq :
    candidate? = fun rank digits =>
      match gridNeighbours rank digits with
      | (below, above) =>
          match below.readsBackTo rank, above.readsBackTo rank with
          | true, true => some (nearerOf rank below above)
          | true, false => some below
          | false, true => some above
          | false, false => none :=
  rfl

theorem candidate?_cases (rank digits : Nat) :
    (∃ d, candidate? rank digits = some d ∧ d.readsBackTo rank = true) ∨
      candidate? rank digits = none ∧
        (gridNeighbours rank digits).1.readsBackTo rank = false ∧
        (gridNeighbours rank digits).2.readsBackTo rank = false := by
  rw [candidate?_eq]
  beta_reduce
  generalize gridNeighbours rank digits = neighbours
  obtain ⟨below, above⟩ := neighbours
  have nearer := nearerOf_eq_or rank below above
  -- The test is kept out of sight, so that nobody computes it.
  generalize Decimal.readsBackTo = reads
  dsimp only
  cases belowReads : reads below rank with
  | true =>
      cases aboveReads : reads above rank with
      | true =>
          refine .inl ⟨_, rfl, ?_⟩
          rcases nearer with chosen | chosen
          · rw [chosen, belowReads]
          · rw [chosen, aboveReads]
      | false => exact .inl ⟨below, rfl, belowReads⟩
  | false =>
      cases aboveReads : reads above rank with
      | true => exact .inl ⟨above, rfl, aboveReads⟩
      | false => exact .inr ⟨rfl, rfl, rfl⟩

/-- One of the two neighbours of seventeen digits reads back, because the interval of a
magnitude is wider than the grid. -/
theorem exists_candidate?_seventeen (positive : 0 < rank) :
    ∃ d, candidate? rank 17 = some d ∧ d.readsBackTo rank = true := by
  rcases candidate?_cases rank 17 with found | ⟨-, belowFails, aboveFails⟩
  · exact found
  · exfalso
    obtain ⟨before, rfl⟩ : ∃ before, rank = before + 1 := ⟨rank - 1, by omega⟩
    obtain ⟨whole, neighbours, below, above⟩ := exists_gridNeighbours_eq (before + 1) 17
    rw [neighbours, ← Bool.not_eq_true, Decimal.readsBackTo_iff, Decimal.value] at belowFails aboveFails
    have pointed := zpow_pointPosition_le (Nat.zero_lt_of_lt (strictMono_unitsOfRank positive))
    have powers : (10 : ℚ) ^ (pointPosition (unitsOfRank (before + 1)) - 1) =
        10 ^ 16 * 10 ^ (pointPosition (unitsOfRank (before + 1)) - (17 : Nat)) := by
      rw [← zpow_natCast, ← zpow_add₀ (by norm_num)]
      congr 1
      push_cast
      ring
    have previous : (unitsOfRank before : ℚ) + 2 ^ scale before = unitsOfRank (before + 1) := by
      exact_mod_cast (unitsOfRank_succ before).symm
    have next : (unitsOfRank (before + 1) : ℚ) + 2 ^ scale before ≤ unitsOfRank (before + 1 + 1) := by
      rw [unitsOfRank_succ (before + 1)]
      push_cast
      gcongr
      · norm_num
      · exact scale_le_scale (Nat.le_succ before)
    have size : (unitsOfRank (before + 1) : ℚ) ≤ 2 ^ 53 * 2 ^ scale before := by
      exact_mod_cast unitsOfRank_succ_le before
    have step : (0 : ℚ) < 2 ^ scale before := by positivity
    rw [powers] at pointed
    generalize (10 : ℚ) ^ (pointPosition (unitsOfRank (before + 1)) - (17 : Nat)) = power at *
    generalize (unitsPerOne : ℚ) = one at *
    have low : (whole : ℚ) * power * (2 * one) ≤ unitsOfRank before + unitsOfRank (before + 1) := by
      apply not_lt.mp
      intro inside
      refine belowFails (.of_between inside ?_)
      linarith
    have high : (unitsOfRank (before + 1) + unitsOfRank (before + 1 + 1) : ℚ) ≤
        (whole + 1 : Nat) * power * (2 * one) := by
      apply not_lt.mp
      intro inside
      refine aboveFails (.of_between ?_ inside)
      push_cast
      linarith
    push_cast at high
    linarith

theorem roundsTo_shortest (positive : 0 < rank) :
    RoundsTo rank ((shortest rank).value * (2 * unitsPerOne)) := by
  unfold shortest
  rw [Decimal.value_dropZeros, ← Decimal.readsBackTo_iff]
  cases found : ((List.range 17).map (· + 1)).findSome? (candidate? rank) with
  | none =>
      have missing := List.findSome?_eq_none_iff.mp found 17 (by decide)
      obtain ⟨d, present, -⟩ := exists_candidate?_seventeen positive
      rw [missing] at present
      cases present
  | some d =>
      obtain ⟨digits, -, candidate⟩ := List.exists_of_findSome?_eq_some found
      rcases candidate?_cases rank digits with ⟨other, same, reads⟩ | ⟨missing, -⟩
      · rw [candidate] at same
        cases same
        exact reads
      · rw [candidate] at missing
        cases missing

end Tunables.Binary64

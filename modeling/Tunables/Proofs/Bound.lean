import Mathlib.Tactic.Ring
import Tunables.Bound

/-!
# Bounds that no double holds

A whole number becomes a double unless its magnitude rounds past the last finite
one.  The least magnitude that does is `2 ^ 1024 - 2 ^ 970`, half a step beyond
that last double, and such a number is the only kind of bound that is refused.
-/

namespace Tunables
namespace Binary64

/-- The least whole number that is too large for a double. -/
def overflowLimit : Nat := 2 ^ 1024 - 2 ^ 970

/-! ## Rounding -/

variable {numerator denominator limit : Nat}

theorem div_le_roundQuotient (numerator denominator : Nat) :
    numerator / denominator ≤ roundQuotient numerator denominator := by
  unfold roundQuotient
  dsimp only
  split
  · exact Nat.le_refl _
  · split
    · exact Nat.le_succ _
    · exact Nat.le_add_right _ _

theorem roundQuotient_le_succ_div (numerator denominator : Nat) :
    roundQuotient numerator denominator ≤ numerator / denominator + 1 := by
  unfold roundQuotient
  dsimp only
  split
  · exact Nat.le_succ _
  · split
    · exact Nat.le_refl _
    · exact Nat.add_le_add_left (Nat.le_of_lt_succ (Nat.mod_lt _ Nat.two_pos)) _

/-- A quotient rounds to less than an even number when it lies more than half a
step below it; from half a step on it rounds up. -/
theorem roundQuotient_lt_iff (positive : 0 < denominator) (even : limit % 2 = 0) :
    roundQuotient numerator denominator < limit ↔
      2 * numerator + denominator < 2 * (denominator * limit) := by
  have split := Nat.div_add_mod numerator denominator
  have rest := Nat.mod_lt numerator positive
  have atLeast := div_le_roundQuotient numerator denominator
  have atMost := roundQuotient_le_succ_div numerator denominator
  rcases Nat.lt_trichotomy (numerator / denominator + 1) limit with below | close | above
  · have product := Nat.mul_le_mul_left denominator (Nat.succ_le_of_lt below)
    rw [Nat.mul_succ, Nat.mul_succ] at product
    omega
  · -- The last number below the limit is odd, so a tie goes up.
    have product := congrArg (fun whole => denominator * whole) close
    rw [Nat.mul_succ] at product
    clear atLeast atMost
    unfold roundQuotient
    dsimp only
    split
    · omega
    · split
      · omega
      · omega
  · have product := Nat.mul_le_mul_left denominator (Nat.le_of_lt_succ above)
    omega

/-- A whole number of units has a rank on one of the first scales when it lies more
than half a step below the first magnitude of the scale that comes next. -/
theorem nearestRank_one_lt_iff (units : Nat) {top : Nat} (positive : 0 < top) :
    nearestRank units 1 < (top + 2) * 2 ^ 52 ↔
      2 * units + 2 ^ top < 2 * (2 ^ top * 2 ^ 53) := by
  have scaled : nearestRank units 1 =
      (units.log2 - 52) * 2 ^ 52 + roundQuotient units (2 ^ (units.log2 - 52)) := by
    simp only [nearestRank, Nat.div_one, Nat.one_mul, Nat.pow_eq]
  have below : units < 2 ^ (units.log2 + 1) := Nat.lt_log2_self
  have next : (top + 2) * 2 ^ 52 = top * 2 ^ 52 + 2 ^ 53 := Nat.add_mul top 2 _
  rw [scaled, next]
  rcases Nat.lt_trichotomy units.log2 (top + 52) with small | last | large
  · -- A smaller scale: even rounded up to its end the number is not that large.
    have scales : (units.log2 - 52) * 2 ^ 52 + 2 ^ 52 ≤ top * 2 ^ 52 := by
      rw [← Nat.succ_mul]
      exact Nat.mul_le_mul_right _ (by omega)
    have rounded : roundQuotient units (2 ^ (units.log2 - 52)) ≤ 2 ^ 53 := by
      refine Nat.le_trans (roundQuotient_le_succ_div _ _) (Nat.succ_le_of_lt ?_)
      rw [Nat.div_lt_iff_lt_mul (Nat.two_pow_pos _), ← Nat.pow_add]
      exact Nat.lt_of_lt_of_le below (Nat.pow_le_pow_right Nat.two_pos (by omega))
    have power : units < 2 ^ top * 2 ^ 52 := by
      rw [← Nat.pow_add]
      exact Nat.lt_of_lt_of_le below (Nat.pow_le_pow_right Nat.two_pos small)
    exact ⟨fun _ => by omega, fun _ => by omega⟩
  · have shift : units.log2 - 52 = top := by omega
    rw [shift, Nat.add_lt_add_iff_left]
    exact roundQuotient_lt_iff (Nat.two_pow_pos top) rfl
  · -- A larger scale: even its first number is too large.
    have nonzero : units ≠ 0 := by
      intro zero
      rw [zero, Nat.log2_zero] at large
      exact Nat.not_lt_zero _ large
    have least : 2 ^ units.log2 ≤ units := Nat.log2_self_le nonzero
    have scales : top * 2 ^ 52 + 2 ^ 52 ≤ (units.log2 - 52) * 2 ^ 52 := by
      rw [← Nat.succ_mul]
      exact Nat.mul_le_mul_right _ (by omega)
    have rounded : 2 ^ 52 ≤ roundQuotient units (2 ^ (units.log2 - 52)) := by
      refine Nat.le_trans ?_ (div_le_roundQuotient _ _)
      rw [Nat.le_div_iff_mul_le (Nat.two_pow_pos _), ← Nat.pow_add]
      exact Nat.le_trans (Nat.pow_le_pow_right Nat.two_pos (by omega)) least
    have power : 2 ^ top * 2 ^ 53 ≤ units := by
      rw [← Nat.pow_add]
      exact Nat.le_trans (Nat.pow_le_pow_right Nat.two_pos large) least
    exact ⟨fun _ => by omega, fun _ => by omega⟩

/-! ## Whole numbers -/

theorem ofRank_of_lt {negative : Bool} {rank : Nat} (inRange : rank < rankLimit) :
    ofRank negative rank = .finite negative rank inRange :=
  dif_pos inRange

theorem ofRank_of_le {negative : Bool} {rank : Nat} (tooLarge : rankLimit ≤ rank) :
    ofRank negative rank = .infinite negative :=
  dif_neg (Nat.not_lt.mpr tooLarge)

theorem unitsPerOne_eq : unitsPerOne = 2 ^ 1074 := by
  unfold unitsPerOne
  -- The exponent is kept out of sight, so that nobody computes the power.
  generalize 1074 = exponent
  exact Nat.pow_eq

theorem ofInt?_eq_none_iff_rank {n : Int} :
    ofInt? n = none ↔ rankLimit ≤ nearestRank (n.natAbs * unitsPerOne) 1 := by
  rw [ofInt?, ofQuotient]
  generalize nearestRank (n.natAbs * unitsPerOne) 1 = rank
  by_cases inside : rank < rankLimit
  · rw [ofRank_of_lt inside]
    constructor
    · intro impossible
      cases impossible
    · intro outside
      exact absurd inside (Nat.not_lt.mpr outside)
  · rw [ofRank_of_le (Nat.not_lt.mp inside)]
    exact ⟨fun _ => Nat.not_lt.mp inside, fun _ => rfl⟩

/-- A whole number is too large for a double from the overflow limit on. -/
theorem ofInt?_eq_none_iff {n : Int} : ofInt? n = none ↔ overflowLimit ≤ n.natAbs := by
  have limit : rankLimit = (2045 + 2) * 2 ^ 52 := rfl
  have power (k l : Nat) : (2 : Nat) ^ (k + l) = 2 ^ k * 2 ^ l := Nat.pow_add 2 k l
  have scale : (2 : Nat) ^ 2045 = 2 ^ 1 * 2 ^ 970 * 2 ^ 1074 := by
    rw [power 971 1074, power 1 970]
  have top : (2 : Nat) ^ 1024 = 2 ^ 970 * 2 ^ 54 := by rw [power 970 54]
  have powerPos (k : Nat) : 0 < (2 : Nat) ^ k := Nat.two_pow_pos k
  have positive := powerPos 1074
  rw [ofInt?_eq_none_iff_rank, ← Nat.not_lt, limit, nearestRank_one_lt_iff _ (by decide), scale,
    overflowLimit, top, unitsPerOne_eq]
  generalize (2 : Nat) ^ 1074 = unit at positive
  generalize (2 : Nat) ^ 970 = half
  have left : 2 * (n.natAbs * unit) + 2 ^ 1 * half * unit = 2 * unit * (n.natAbs + half) := by
    ring
  have right : 2 * (2 ^ 1 * half * unit * 2 ^ 53) = 2 * unit * (half * 2 ^ 54) := by ring
  rw [left, right, Nat.mul_lt_mul_left (by omega : 0 < 2 * unit), Nat.not_lt,
    Nat.sub_le_iff_le_add]

end Binary64

namespace Bound

theorem ofInt_eq_error_iff {n : Int} {error : BoundError} :
    ofInt n = .error error ↔ Binary64.overflowLimit ≤ n.natAbs := by
  rw [← Binary64.ofInt?_eq_none_iff, ofInt]
  cases Binary64.ofInt? n with
  | none => exact ⟨fun _ => rfl, fun _ => rfl⟩
  | some x => exact ⟨nofun, nofun⟩

/-- The only bound that is refused is a whole number that is too large for a
double. -/
theorem ofJson_eq_error_iff {value : Json} {error : BoundError} :
    ofJson value = .error error ↔ ∃ n, value = .int n ∧ Binary64.overflowLimit ≤ n.natAbs := by
  constructor
  · intro refused
    cases value with
    | int n => exact ⟨n, rfl, ofInt_eq_error_iff.mp refused⟩
    | null | bool | real | string | array | object => cases refused
  · intro parts
    obtain ⟨n, rfl, tooLarge⟩ := parts
    exact ofInt_eq_error_iff.mpr tooLarge

end Bound
end Tunables

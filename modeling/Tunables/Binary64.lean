/-!
# Double-precision numbers

A double is a not-a-number, an infinity, or a signed finite magnitude.  The
finite magnitudes are numbered in ascending order by their *rank*: rank `0` is
zero, rank `1` the least positive magnitude, and the order of ranks is the
order of magnitudes.  Every finite magnitude is a whole number of *units*,
where a unit is `2 ^ (-1074)`, so comparison, truncation and rounding are
exact arithmetic on natural numbers.
-/

namespace Tunables

/-- A double-precision number. -/
inductive Binary64 where
  | nan
  | infinite (negative : Bool)
  | finite (negative : Bool) (rank : Nat) (inRange : rank < 2047 * Nat.pow 2 52)
  deriving DecidableEq

namespace Binary64

/-- The number of finite magnitudes; it is the first rank that overflows. -/
def rankLimit : Nat := 2047 * Nat.pow 2 52

/-- One is `2 ^ 1074` units. -/
def unitsPerOne : Nat := Nat.pow 2 1074

/-- The whole-number factor of the magnitude of a rank. -/
def significand (rank : Nat) : Nat :=
  if rank < Nat.pow 2 52 then rank else Nat.pow 2 52 + rank % Nat.pow 2 52

/-- The binary exponent, counted from the least one, of the magnitude of a rank. -/
def scale (rank : Nat) : Nat :=
  rank / Nat.pow 2 52 - 1

/-- The magnitude of a rank in units. -/
def unitsOfRank (rank : Nat) : Nat :=
  significand rank * Nat.pow 2 (scale rank)

/-- Rounds a quotient to the nearest whole number, halves to the even one. -/
def roundQuotient (numerator denominator : Nat) : Nat :=
  let whole := numerator / denominator
  let rest := numerator % denominator
  if 2 * rest < denominator then whole
  else if denominator < 2 * rest then whole + 1
  else whole + whole % 2

/-- The rank nearest to a quotient of units, halves to the even significand.
The answer reaches `rankLimit` when the quotient rounds past the last finite
magnitude. -/
def nearestRank (numerator denominator : Nat) : Nat :=
  let shift := (numerator / denominator).log2 - 52
  shift * Nat.pow 2 52 + roundQuotient numerator (denominator * Nat.pow 2 shift)

/-- The double of a sign and a rank; ranks past the last one overflow. -/
def ofRank (negative : Bool) (rank : Nat) : Binary64 :=
  if inRange : rank < 2047 * Nat.pow 2 52 then .finite negative rank inRange
  else .infinite negative

def zero : Binary64 := ofRank false 0

/-- The double nearest to a quotient of natural numbers. -/
def ofQuotient (negative : Bool) (numerator denominator : Nat) : Binary64 :=
  ofRank negative (nearestRank (numerator * unitsPerOne) denominator)

/-- A double if it is finite. -/
def finite? : Binary64 → Option Binary64
  | .finite negative rank inRange => some (.finite negative rank inRange)
  | _ => none

/-- The double nearest to an integer, or nothing when the integer is too large. -/
def ofInt? (n : Int) : Option Binary64 :=
  (ofQuotient (decide (n < 0)) n.natAbs 1).finite?

/-- The double nearest to `coefficient * 10 ^ exponent`.  Exponents so large or
so small that the answer is an infinity or a zero whatever the digits say are
recognised without computing the power. -/
def ofDecimal (negative : Bool) (coefficient : Nat) (exponent : Int) : Binary64 :=
  if coefficient = 0 then ofRank negative 0
  else
    match exponent with
    | .ofNat power =>
        if 400 < power then .infinite negative
        else ofQuotient negative (coefficient * Nat.pow 10 power) 1
    | .negSucc less =>
        if coefficient.log2 + 1100 < 3 * (less + 1) then ofRank negative 0
        else ofQuotient negative coefficient (Nat.pow 10 (less + 1))

/-- The signed number of units of a finite double. -/
def units? : Binary64 → Option Int
  | .finite negative rank _ =>
      some (if negative then -(unitsOfRank rank : Int) else (unitsOfRank rank : Int))
  | _ => none

/-- The double nearest to the sum of a double and a whole number of its sign. -/
def addWhole (x : Binary64) (n : Nat) : Binary64 :=
  match x with
  | .finite negative rank _ =>
      ofRank negative (nearestRank (unitsOfRank rank + n * unitsPerOne) 1)
  | other => other

/-- Whether a double is finite and has no fractional part. -/
def isIntegral : Binary64 → Bool
  | .finite _ rank _ => unitsOfRank rank % unitsPerOne == 0
  | _ => false

/-- The integer part of a finite double. -/
def truncate? (x : Binary64) : Option Int :=
  x.units?.map (·.tdiv unitsPerOne)

/-- Whether a double is a zero of either sign. -/
def isZero : Binary64 → Bool
  | .finite _ rank _ => rank == 0
  | _ => false

/-- Whether a double is greater than zero. -/
def isPositive : Binary64 → Bool
  | .finite negative rank _ => !negative && rank != 0
  | .infinite negative => !negative
  | .nan => false

/-- Numeric equality of doubles: the zeros are equal, and not-a-number equals
nothing. -/
def numEq : Binary64 → Binary64 → Bool
  | .nan, _ => false
  | _, .nan => false
  | .infinite s, .infinite t => s == t
  | .finite s r _, .finite t q _ => r == q && (s == t || r == 0)
  | _, _ => false

/-- Numeric equality of a double and an integer, with no rounding of either. -/
def equalsInt (x : Binary64) (n : Int) : Bool :=
  x.units? == some (n * unitsPerOne)

end Binary64
end Tunables

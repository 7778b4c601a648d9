import Tunables.Binary64

/-!
# The shortest decimal text of a double

A finite double is written with the fewest significant digits that read back
to the same double, and with the nearest such digits when several would do.
A layout then decides where the decimal point goes and when an exponent is
written.
-/

namespace Tunables.Binary64

/-- A decimal number `coefficient * 10 ^ exponent`. -/
structure Decimal where
  coefficient : Nat
  exponent : Int
  deriving DecidableEq, Repr

/-- The number of decimal digits of a natural number; zero has one. -/
def digitCount (n : Nat) : Nat :=
  (Nat.toDigits 10 n).length

/-- Where the decimal point of a positive magnitude stands: the answer `p`
satisfies `10 ^ (p - 1) ≤ magnitude < 10 ^ p`. -/
def pointPosition (units : Nat) : Int :=
  (digitCount (units * Nat.pow 10 330 / unitsPerOne) : Int) - 330

/-- A decimal as an exact quotient of half units. -/
def Decimal.halfUnits (d : Decimal) : Nat × Nat :=
  match d.exponent with
  | .ofNat power => (d.coefficient * Nat.pow 10 power * (2 * unitsPerOne), 1)
  | .negSucc less => (d.coefficient * (2 * unitsPerOne), Nat.pow 10 (less + 1))

/-- Whether a decimal lies among the reals that round to the magnitude of a
rank.  The two ends belong to the interval when the rank is even. -/
def Decimal.readsBackTo (d : Decimal) (rank : Nat) : Bool :=
  let (numerator, denominator) := d.halfUnits
  let low := (unitsOfRank (rank - 1) + unitsOfRank rank) * denominator
  let high := (unitsOfRank rank + unitsOfRank (rank + 1)) * denominator
  if rank % 2 == 0 then low ≤ numerator && numerator ≤ high
  else low < numerator && numerator < high

/-- The two neighbours of a magnitude on the grid of `digits` significant
digits, at most one of which is the magnitude itself. -/
def gridNeighbours (rank digits : Nat) : Decimal × Decimal :=
  let units := unitsOfRank rank
  let exponent := pointPosition units - digits
  let below :=
    match exponent with
    | .ofNat power => units / (Nat.pow 10 power * unitsPerOne)
    | .negSucc less => units * Nat.pow 10 (less + 1) / unitsPerOne
  (⟨below, exponent⟩, ⟨below + 1, exponent⟩)

/-- Of two neighbouring decimals the one nearer to the magnitude, and the even
one when the magnitude stands in the middle. -/
def nearerOf (rank : Nat) (below above : Decimal) : Decimal :=
  let (low, denominator) := below.halfUnits
  let (high, _) := above.halfUnits
  let middle := 2 * (2 * unitsOfRank rank * denominator)
  if middle < low + high then below
  else if low + high < middle then above
  else if below.coefficient % 2 == 0 then below else above

/-- The decimal with the given number of digits that reads back, if there is
one. -/
def candidate? (rank digits : Nat) : Option Decimal :=
  let (below, above) := gridNeighbours rank digits
  match below.readsBackTo rank, above.readsBackTo rank with
  | true, true => some (nearerOf rank below above)
  | true, false => some below
  | false, true => some above
  | false, false => none

/-- Drops the trailing zeros of a coefficient, at most `fuel` of them. -/
def Decimal.dropZeros (d : Decimal) : (fuel : Nat) → Decimal
  | 0 => d
  | fuel + 1 =>
      if d.coefficient % 10 == 0 && d.coefficient != 0 then
        dropZeros ⟨d.coefficient / 10, d.exponent + 1⟩ fuel
      else d

/-- The shortest decimal that reads back to the magnitude of a positive rank.
Seventeen digits always read back. -/
def shortest (rank : Nat) : Decimal :=
  let found := ((List.range 17).map (· + 1)).findSome? (candidate? rank)
  (found.getD (gridNeighbours rank 17).1).dropZeros 20

/-- How numbers are written: between which decimal exponents the positional
form is used, the fewest digits of a written exponent, and the names of the
values that are not finite. -/
structure NumberLayout where
  leastPositional : Int
  greatestPositional : Int
  exponentDigits : Nat
  notANumber : String
  infinity : String
  negativeInfinity : String

/-- The layout used for values and messages: positional from `0.0001` up to
sixteen integer digits, exponents of at least two digits. -/
def plainLayout : NumberLayout :=
  ⟨-4, 15, 2, "nan", "inf", "-inf"⟩

/-- Puts zeros in front of a text of digits until it has the wanted length. -/
def padDigits (width : Nat) (digits : String) : String :=
  "".pushn '0' (width - digits.length) ++ digits

/-- Writes a positive decimal without trailing zeros. -/
def NumberLayout.writeDecimal (layout : NumberLayout) (d : Decimal) : String :=
  let digits := Nat.toDigits 10 d.coefficient
  let lead : Int := d.exponent + digits.length - 1
  if layout.leastPositional ≤ lead ∧ lead ≤ layout.greatestPositional then
    if lead < 0 then
      "0." ++ "".pushn '0' (-lead - 1).toNat ++ String.ofList digits
    else
      let integerDigits := lead.toNat + 1
      let integral := digits.take integerDigits
      let fraction := digits.drop integerDigits
      let filled := "".pushn '0' (integerDigits - integral.length)
      String.ofList integral ++ filled ++ "." ++
        (if fraction.isEmpty then "0" else String.ofList fraction)
  else
    let fraction := digits.drop 1
    String.ofList (digits.take 1) ++
      (if fraction.isEmpty then "" else "." ++ String.ofList fraction) ++
      (if lead < 0 then "e-" else "e+") ++
      padDigits layout.exponentDigits (toString lead.natAbs)

def NumberLayout.write (layout : NumberLayout) : Binary64 → String
  | .nan => layout.notANumber
  | .infinite negative => if negative then layout.negativeInfinity else layout.infinity
  | .finite negative rank _ =>
      (if negative then "-" else "") ++
        (if rank == 0 then "0.0" else layout.writeDecimal (shortest rank))

/-- The text of a double in values and messages. -/
def text (x : Binary64) : String :=
  plainLayout.write x

end Tunables.Binary64

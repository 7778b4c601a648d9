import Tunables.Json
import Tunables.Text.Numeral

/-!
# Bounds of a parameter

A bound comes as a number, as a number in text, or as something that is no
bound at all.  A whole number beyond the range of doubles is an error, a text
that is no number just gives no bound.
-/

namespace Tunables

/-- The failure of a bound that no double can hold. -/
inductive BoundError where
  | tooLarge
  deriving DecidableEq, Repr

/-- The wording of a bound that no double can hold. -/
def BoundError.message : BoundError → String
  | .tooLarge => "int too large to convert to float"

/-- A lower or upper bound, if there is one. -/
abbrev Bound := Option Binary64

namespace Bound

/-- The bound of a text; a blank text or one that is no number gives none. -/
def ofText (text : Text) : Bound :=
  if Text.allBlank text then none else Text.readNumeral? text

def ofInt (value : Int) : Except BoundError Bound :=
  (Binary64.ofInt? value).elim (.error .tooLarge) fun bound => .ok (some bound)

def ofJson : Json → Except BoundError Bound
  | .int value => ofInt value
  | .real value => .ok (some value)
  | .string text => .ok (ofText text)
  | _ => .ok none

def toJson : Bound → Json
  | some value => .real value
  | none => .null

/-- Equality of bounds: numbers are compared by value.  What is no number is always the
same here, as it is when JSON spells it; where two texts spell it, it is not told apart
from that. -/
def sameAs : Bound → Bound → Bool
  | some x, some y => x == y || x.numEq y
  | none, none => true
  | _, _ => false

end Bound
end Tunables

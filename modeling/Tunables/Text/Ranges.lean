/-!
# Sets of code points as ranges

A set of code points is given by the closed ranges it consists of.
-/

namespace Tunables.Text

abbrev Ranges := List (Nat × Nat)

/-- Whether a code point lies in one of the ranges. -/
def Ranges.contains (ranges : Ranges) (codePoint : Nat) : Bool :=
  ranges.any fun range => range.1 ≤ codePoint && codePoint ≤ range.2

end Tunables.Text

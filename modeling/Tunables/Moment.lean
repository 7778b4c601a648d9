import Tunables.Binary64.Shortest

/-!
# Time

Times are counted exactly, in the units of doubles, so adding durations never
rounds.
-/

namespace Tunables

/-- A point in time or a distance between two, in units of `2 ^ (-1074)`
seconds. -/
abbrev Moment := Int

/-- A number of seconds as it was given: whole or not. -/
inductive Seconds where
  | whole (value : Int)
  | fractional (value : Binary64)
  deriving DecidableEq

namespace Seconds

/-- The text of a number of seconds. -/
def text : Seconds → String
  | .whole value => toString value
  | .fractional value => value.text

/-- A number of seconds as a distance; infinite ones have none. -/
def distance? : Seconds → Option Moment
  | .whole value => some (value * Binary64.unitsPerOne)
  | .fractional value => value.units?

end Seconds

/-- A limit on how long some work may take. -/
abbrev Timeout := Option Seconds

namespace Timeout

def text : Timeout → String
  | some seconds => seconds.text
  | none => "None"

/-- When work that starts at a moment is cut off.  Without a limit, and with one
that is not finite, it never is. -/
def deadline (limit : Timeout) (start : Moment) : Option Moment :=
  (limit.bind Seconds.distance?).map (start + ·)

end Timeout
end Tunables

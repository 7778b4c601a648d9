/-!
# Calendar times

Seconds are counted from the start of the year 1970.  A calendar time is what a
calendar and a clock on the wall show at such a second.
-/

namespace Tunables

/-- A calendar time. -/
structure CalendarTime where
  year : Int
  month : Nat
  day : Nat
  hour : Nat
  minute : Nat
  second : Nat
  deriving DecidableEq, Repr

namespace CalendarTime

/-- The days from the first of March of the year 0 to the start of 1970. -/
def daysBefore1970 : Int := 719468

/-- The days in four centuries. -/
def daysPerEra : Int := 146097

/-- The year, counted from March, of a day within four centuries. -/
def yearOfEra (day : Nat) : Nat :=
  (day - day / 1460 + day / 36524 - day / 146096) / 365

/-- The day within a year that starts in March. -/
def dayOfYear (day : Nat) : Nat :=
  let year := yearOfEra day
  day - (365 * year + year / 4 - year / 100)

/-- The date of a day counted from the start of 1970: year, month and day.  Years
are counted from March, so that a leap day is the last day of its year. -/
def dateOfDay (day : Int) : Int × Nat × Nat :=
  let shifted := day + daysBefore1970
  let era := shifted.fdiv daysPerEra
  let dayOfEra := (shifted.fmod daysPerEra).toNat
  let rest := dayOfYear dayOfEra
  let month := (5 * rest + 2) / 153
  let date := rest - (153 * month + 2) / 5 + 1
  let year := era * 400 + yearOfEra dayOfEra
  if month < 10 then (year, month + 3, date) else (year + 1, month - 9, date)

def ofSeconds (seconds : Int) : CalendarTime :=
  let (year, month, day) := dateOfDay (seconds.fdiv 86400)
  let rest := (seconds.fmod 86400).toNat
  ⟨year, month, day, rest / 3600, rest / 60 % 60, rest % 60⟩

def twoDigits (n : Nat) : String :=
  (if n < 10 then "0" else "") ++ toString n

def text (t : CalendarTime) : String :=
  twoDigits t.day ++ "-" ++ twoDigits t.month ++ "-" ++ toString t.year ++ ", " ++
    twoDigits t.hour ++ ":" ++ twoDigits t.minute ++ ":" ++ twoDigits t.second

end CalendarTime
end Tunables

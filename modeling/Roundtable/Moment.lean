/-!
Moments at the resolution of a nanosecond, and the time of day that a clock on the wall shows at one.
-/

namespace Roundtable

/-- A moment, in nanoseconds from the midnight that begins day zero. -/
structure Moment where
  nanoseconds : Int
  deriving DecidableEq, Repr

/-- The whole seconds since the last midnight. -/
def Moment.secondOfDay (moment : Moment) : Nat :=
  (moment.nanoseconds / 1000000000 % 86400).toNat

/-- The two digits of a number below one hundred. -/
def twoDigits (n : Nat) : List Char :=
  [Nat.digitChar (n / 10), Nat.digitChar (n % 10)]

/-- The time of day as hours, minutes and seconds. -/
def Moment.clockTime (moment : Moment) : List Char :=
  let s := moment.secondOfDay
  twoDigits (s / 3600) ++ ':' :: twoDigits (s / 60 % 60) ++ ':' :: twoDigits (s % 60)

end Roundtable

import Datestamp.Text

/-!
# Local times

A local time is an instant broken down in the local zone: date, time of day, place in the week and
in the year, and what the zone says of the instant.
-/

namespace Datestamp

/-- Whether daylight saving time is in effect. -/
inductive Daylight where
  | unknown
  | inactive
  | active
deriving DecidableEq, Repr

/-- The status that a signed flag stands for: negative unknown, zero inactive, positive active. -/
def Daylight.ofFlag (flag : Int) : Daylight :=
  if flag < 0 then .unknown else if flag = 0 then .inactive else .active

/-- An instant broken down in a zone. Months, days of the month and days of the year count from
one; the week starts with Monday as zero. The zone's offset is in seconds east of Greenwich. -/
structure LocalTime where
  year : Int
  month : Nat
  day : Nat
  hour : Nat
  minute : Nat
  second : Nat
  weekday : Nat
  yearDay : Nat
  zoneName : Option Text
  daylight : Daylight
  utcOffset : Int
deriving DecidableEq, Repr

end Datestamp

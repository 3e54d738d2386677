/-!
# The calendar

* `Date`, a day of the Gregorian calendar, which is continued to all years before and after its
  introduction; year 0 comes before year 1;
* `Date.toDays` and `Date.ofDays`, the number of a day counted from 1970-01-01.

Years are counted from March on in both functions, so that the day which is not in every year
is the last one.
-/

namespace GraphLayer.Time

/-- A day by its year, its month from 1 on and its day of the month from 1 on. -/
structure Date where
  year : Int
  month : Int
  day : Int
  deriving DecidableEq, Repr

namespace Date

/-- Whether the year has a 29th of February. -/
def isLeap (year : Int) : Bool := year % 4 == 0 && (year % 100 != 0 || year % 400 == 0)

/-- The number of days of a month. -/
def monthLength (year month : Int) : Int :=
  if month = 2 then (if isLeap year then 29 else 28)
  else if month = 4 ∨ month = 6 ∨ month = 9 ∨ month = 11 then 30
  else 31

/-- Whether there is such a day. -/
def Valid (d : Date) : Prop :=
  1 ≤ d.month ∧ d.month ≤ 12 ∧ 1 ≤ d.day ∧ d.day ≤ monthLength d.year d.month

instance (d : Date) : Decidable d.Valid := inferInstanceAs (Decidable (_ ∧ _ ∧ _ ∧ _))

/-- The number of a day in a period of 400 years that begins in March. -/
def dayOfPeriod (year month day : Int) : Int :=
  year * 365 + year / 4 - year / 100 + ((153 * month + 2) / 5 + day - 1)

/-- The number of days since 1970-01-01. -/
def toDays (d : Date) : Int :=
  let year := if d.month ≤ 2 then d.year - 1 else d.year
  let month := if d.month ≤ 2 then d.month + 9 else d.month - 3
  year / 400 * 146097 + dayOfPeriod (year % 400) month d.day - 719468

/-- The year inside of a period of 400 years that begins in March. -/
def yearOfPeriod (n : Int) : Int := (n - n / 1460 + n / 36524 - n / 146096) / 365

/-- The day at a distance from 1970-01-01. -/
def ofDays (n : Int) : Date :=
  let z := n + 719468
  let inPeriod := z % 146097
  let y := yearOfPeriod inPeriod
  let inYear := inPeriod - (365 * y + y / 4 - y / 100)
  let m := (5 * inYear + 2) / 153
  let month := if m < 10 then m + 3 else m - 9
  { year := y + z / 146097 * 400 + (if month ≤ 2 then 1 else 0)
    month
    day := inYear - (153 * m + 2) / 5 + 1 }

end Date

end GraphLayer.Time

import MovieCatalogue.Calendar.Date
import MovieCatalogue.Number.Operators

/-!
Contract: days and seconds counted from the start of the year 1970.

Owns: the day with which a year starts, the day of a date, and the seconds that fall
into the years that a date may have. Counts before the start of 1970 are negative.
Does not own: points of time; see `Calendar.Moment`.
-/

namespace MovieCatalogue.Calendar

def secondsPerDay : Nat := 86400

/-- The leap days from the start of the year 1 to the start of another one. -/
def leapDaysBefore (year : Int) : Int :=
  (year - 1) / 4 - (year - 1) / 100 + (year - 1) / 400

/-- The first day of a year. -/
def yearStart (year : Int) : Int :=
  365 * (year - 1970) + (leapDaysBefore year - leapDaysBefore 1970)

/-- A year has 366 days if it has a leap day, and else 365. -/
theorem yearStart_succ (year : Int) :
    yearStart (year + 1) = yearStart year + (if isLeap year then 366 else 365) := by
  unfold yearStart leapDaysBefore isLeap
  split <;> rename_i h <;> simp at h <;> omega

/-- The days of a year before a month. -/
def daysBeforeMonth (year : Int) (month : Nat) : Nat :=
  ((List.range (month - 1)).map fun before => daysInMonth year (before + 1)).sum

/-- The day of a date. -/
def dayNumber (year : Int) (month day : Nat) : Int :=
  yearStart year + daysBeforeMonth year month + day - 1

/-- The seconds at the start of a day. -/
def secondsAt (day : Int) : Int :=
  day * secondsPerDay

/-- Whether a second falls into a year that a date may have. -/
def isTime (seconds : Int) : Bool :=
  secondsAt (yearStart firstYear) ≤ seconds && seconds < secondsAt (yearStart (lastYear + 1))

end MovieCatalogue.Calendar

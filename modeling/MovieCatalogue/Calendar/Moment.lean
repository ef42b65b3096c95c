import MovieCatalogue.Number.Digits

/-!
Contract: points of time.

Owns: `Moment`, a count of milliseconds from the start of the year 1970, the day
and the time of day that it falls on, and its written form in reports.
Does not own: clocks; see `Main`.
-/

namespace MovieCatalogue.Calendar

open MovieCatalogue.Number

structure Moment where
  /-- Milliseconds since the start of the year 1970. -/
  millis : Nat
deriving DecidableEq, Repr

namespace Moment

/-- Whole seconds since the start of the year 1970. -/
def seconds (moment : Moment) : Nat :=
  moment.millis / 1000

/-- Days from the first of March of the year 0 to the first of January of 1970. -/
def daysBefore1970 : Nat := 719468

/-- Days in four hundred years. -/
def daysInCycle : Nat := 146097

/--
Year, month and day of a day counted from the first of March of the year 0. Years
begin in March here, so that a leap day is the last day of its year.
-/
def civil (day : Nat) : Nat × Nat × Nat :=
  let dayOfCycle := day % daysInCycle
  let yearOfCycle :=
    (dayOfCycle - dayOfCycle / 1460 + dayOfCycle / 36524 - dayOfCycle / 146096) / 365
  let dayOfYear := dayOfCycle - (365 * yearOfCycle + yearOfCycle / 4 - yearOfCycle / 100)
  let monthFromMarch := (5 * dayOfYear + 2) / 153
  let month := if monthFromMarch < 10 then monthFromMarch + 3 else monthFromMarch - 9
  let year := yearOfCycle + 400 * (day / daysInCycle) + (if month ≤ 2 then 1 else 0)
  (year, month, dayOfYear - (153 * monthFromMarch + 2) / 5 + 1)

def dayText (moment : Moment) : String :=
  let (year, month, day) := civil (moment.seconds / 86400 + daysBefore1970)
  String.ofList
    (paddedDigits 4 year ++ '-' :: paddedDigits 2 month ++ '-' :: paddedDigits 2 day)

/-- The time of day, with milliseconds. -/
def timeText (moment : Moment) : String :=
  let second := moment.seconds % 86400
  String.ofList
    (paddedDigits 2 (second / 3600) ++ ':' :: paddedDigits 2 (second / 60 % 60) ++
      ':' :: paddedDigits 2 (second % 60) ++ '.' :: paddedDigits 3 (moment.millis % 1000))

def reportText (moment : Moment) : String :=
  moment.dayText ++ "T" ++ moment.timeText ++ "Z"

end Moment

end MovieCatalogue.Calendar

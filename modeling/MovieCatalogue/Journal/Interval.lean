import MovieCatalogue.Calendar.Zone
import MovieCatalogue.Text.Cut

/-!
Contract: intervals between two times at which a file is put aside.

Owns: `Interval`, a number of units of time, which may also be none or less; and the
time that comes after such an interval, if there is such a time. It is counted from
the start of a unit by the local clocks, and the clocks must show that once. Years
are counted in signed words of 32 bits and months in unsigned ones: a number that
does not fit stands for the one that it leaves there.
Does not own: how intervals are written; see `Journal.RotationReading`.
-/

namespace MovieCatalogue.Journal

open MovieCatalogue.Calendar

inductive IntervalUnit where
  | second
  | minute
  | hour
  | day
  | week
  | month
  | year
deriving DecidableEq, Repr

/-- The unit of a name, in any case and also in the plural. -/
def IntervalUnit.ofName? (name : String) : Option IntervalUnit :=
  match Text.lowerAscii name with
  | "second" | "seconds" => some .second
  | "minute" | "minutes" => some .minute
  | "hour" | "hours" => some .hour
  | "day" | "days" => some .day
  | "week" | "weeks" => some .week
  | "month" | "months" => some .month
  | "year" | "years" => some .year
  | _ => none

/-- A number of units of time. -/
structure Interval where
  unit : IntervalUnit
  count : Int
  /-- Whether it ends at a multiple of the number within the next greater unit. -/
  rounded : Bool := false
deriving DecidableEq, Repr

namespace Interval

/-- How many units it is to the end of an interval that starts at a number of them. -/
def increment (rounded : Bool) (count start : Int) : Option Int :=
  if !rounded then some count
  else if count = 0 then none
  else some (count - start.tmod count)

/-- A second that falls into a year that a date may have. -/
def time? (second : Int) : Option Int :=
  if isTime second then some second else none

/--
The second after an interval of units with a fixed length, given how long it is from
the start of a unit to the present and how many units of the next greater one are over.
-/
def secondAfter? (interval : Interval) (present : LocalMoment) (length sinceStart position : Nat) :
    Option Int := do
  let start ← present.zone.secondShown? present.shown.year (present.shown.seconds - sinceStart)
  let increment ← increment interval.rounded interval.count position
  time? (start + increment * length)

/-- The second after an interval of weeks, which start on Mondays. -/
def secondAfterWeeks? (interval : Interval) (present : LocalMoment) : Option Int := do
  let shown := present.shown
  let second ← secondAfter? interval present (7 * secondsPerDay) shown.secondOfDay (shown.week.2 - 1)
  time? (second - secondsAt shown.sinceMonday)

def secondAfterMonths? (interval : Interval) (present : LocalMoment) : Option Int := do
  let shown := present.shown
  let count := interval.count % 2 ^ 32
  let months := shown.year * 12 + (shown.month - 1) +
    (← increment interval.rounded count (shown.month - 1))
  let year := months / 12
  if lastYear < year then none
  else present.zone.secondShown? year (secondsAt (dayNumber year ((months % 12).toNat + 1) 1))

def secondAfterYears? (interval : Interval) (present : LocalMoment) : Option Int := do
  let count := Int.bmod interval.count (2 ^ 32)
  let year := present.shown.year + (← increment interval.rounded count present.shown.year)
  if firstYear ≤ year ∧ year ≤ lastYear then
    present.zone.secondShown? year (secondsAt (yearStart year))
  else none

/-- The second that comes after an interval, if there is one. -/
def nextSecond? (interval : Interval) (present : LocalMoment) : Option Int :=
  let shown := present.shown
  let second := shown.secondOfDay
  match interval.unit with
  | .second => interval.secondAfter? present 1 0 (second % 60)
  | .minute => interval.secondAfter? present 60 (second % 60) (second / 60 % 60)
  | .hour => interval.secondAfter? present 3600 (second % 3600) shown.hour
  | .day => interval.secondAfter? present secondsPerDay second (shown.dayOfYear - 1)
  | .week => interval.secondAfterWeeks? present
  | .month => interval.secondAfterMonths? present
  | .year => interval.secondAfterYears? present

/--
Whether the time that comes after an interval is over at present, which is when it
comes no later than the present itself. There may be no such time.
-/
def isOver? (interval : Interval) (present : LocalMoment) : Option Bool :=
  (interval.nextSecond? present).map fun second : Int => second ≤ present.moment.seconds

end Interval

end MovieCatalogue.Journal

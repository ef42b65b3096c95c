import MovieCatalogue.Calendar.DayCount
import MovieCatalogue.Calendar.Moment

/-!
Contract: the numbers that a moment is made of.

Owns: `Component`, a number of a date or of a time of day, with its value at a
moment and the width that it is written in; the ways to count weeks; and the names
of months and days. Moments are in universal time; see `Calendar.Zone` for others.
Does not own: texts of several components; see `Calendar.Template`.
-/

namespace MovieCatalogue.Calendar

namespace Moment

/-- Whole days since the start of the year 1970. -/
def days (moment : Moment) : Nat :=
  moment.seconds / 86400

def date (moment : Moment) : Nat × Nat × Nat :=
  civil (moment.days + daysBefore1970)

def year (moment : Moment) : Nat := moment.date.1

def month (moment : Moment) : Nat := moment.date.2.1

def day (moment : Moment) : Nat := moment.date.2.2

def secondOfDay (moment : Moment) : Nat :=
  moment.seconds % 86400

def hour (moment : Moment) : Nat := moment.secondOfDay / 3600

/-- The day of the year, from 1. -/
def dayOfYear (moment : Moment) : Nat :=
  daysBeforeMonth moment.year moment.month + moment.day

/-- The days since the last Sunday. -/
def sinceSunday (moment : Moment) : Nat :=
  (moment.days + 4) % 7

/-- The days since the last Monday. -/
def sinceMonday (moment : Moment) : Nat :=
  (moment.days + 3) % 7

/-- The days since the Monday before the first day of the year. -/
def firstSinceMonday (moment : Moment) : Nat :=
  (moment.sinceMonday + 371 - (moment.dayOfYear - 1)) % 7

end Moment

/-! ## Weeks -/

/--
Whether a year has 53 weeks, given the days from a Monday to its first day: the
weeks of a year are those that have their Thursday in it.
-/
def hasLongCount (year firstSinceMonday : Nat) : Bool :=
  firstSinceMonday == 3 || (firstSinceMonday == 2 && isLeap year)

/-- The days from a Monday to the first day of the year before. -/
def firstOfYearBefore (year firstSinceMonday : Nat) : Nat :=
  (firstSinceMonday + 7 - (if isLeap ((year : Int) - 1) then 2 else 1)) % 7

/-- The year that a week belongs to, and its number in that year. -/
def Moment.week (moment : Moment) : Nat × Nat :=
  let first := moment.firstSinceMonday
  let count := (moment.dayOfYear + 9 - moment.sinceMonday) / 7
  if count = 0 then
    let before := firstOfYearBefore moment.year first
    (moment.year - 1, if hasLongCount (moment.year - 1) before then 53 else 52)
  else if count = 53 && !hasLongCount moment.year first then (moment.year + 1, 1)
  else (moment.year, count)

/-! ## Components -/

/-- A number of a date or of a time of day. -/
inductive Component where
  | year
  | century
  | yearOfCentury
  | weekYear
  | weekYearOfCentury
  | quarter
  | month
  | day
  | dayOfYear
  | week
  /-- Weeks of the year that start on a Sunday. -/
  | sundayWeek
  /-- Weeks of the year that start on a Monday. -/
  | mondayWeek
  /-- The day of the week, from Sunday as 0. -/
  | fromSunday
  /-- The day of the week, from Monday as 1. -/
  | fromMonday
  | hour
  /-- The hour from 1 to 12. -/
  | halfHour
  | minute
  | second
  | nanosecond
  /-- Seconds since the start of the year 1970. -/
  | elapsed
deriving DecidableEq, Repr

namespace Component

/-- The least number of characters that a component is written with. -/
def width : Component → Nat
  | .year | .weekYear => 4
  | .dayOfYear => 3
  | .nanosecond => 9
  | .quarter | .fromSunday | .fromMonday | .elapsed => 1
  | _ => 2

def value (moment : Moment) : Component → Nat
  | .year => moment.year
  | .century => moment.year / 100
  | .yearOfCentury => moment.year % 100
  | .weekYear => moment.week.1
  | .weekYearOfCentury => moment.week.1 % 100
  | .quarter => (moment.month + 2) / 3
  | .month => moment.month
  | .day => moment.day
  | .dayOfYear => moment.dayOfYear
  | .week => moment.week.2
  | .sundayWeek => (moment.dayOfYear + 6 - moment.sinceSunday) / 7
  | .mondayWeek => (moment.dayOfYear + 6 - moment.sinceMonday) / 7
  | .fromSunday => moment.sinceSunday
  | .fromMonday => moment.sinceMonday + 1
  | .hour => moment.hour
  | .halfHour => if moment.hour % 12 = 0 then 12 else moment.hour % 12
  | .minute => moment.secondOfDay / 60 % 60
  | .second => moment.secondOfDay % 60
  | .nanosecond => moment.millis % 1000 * 10 ^ 6
  | .elapsed => moment.seconds

end Component

/-! ## Names -/

def monthNames : List String :=
  ["January", "February", "March", "April", "May", "June", "July", "August", "September",
   "October", "November", "December"]

/-- The names of the days, from Sunday on. -/
def dayNames : List String :=
  ["Sunday", "Monday", "Tuesday", "Wednesday", "Thursday", "Friday", "Saturday"]

def Moment.monthName (moment : Moment) : String :=
  monthNames.getD (moment.month - 1) ""

def Moment.dayName (moment : Moment) : String :=
  dayNames.getD moment.sinceSunday ""

end MovieCatalogue.Calendar

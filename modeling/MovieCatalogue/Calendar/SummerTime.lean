import MovieCatalogue.Calendar.DayCount

/-!
Contract: summer time.

Owns: `Change`, a day of every year on which clocks are put forward or back, with the
time at which they are; `SummerTime`, the changes at its start and at its end; when
it holds; and by how much clocks are ahead that show a given time. A time that is
left out when clocks are put forward is never shown, and one that comes again when
they are put back is shown twice.
Does not own: time zones, see `Calendar.Zone`; how changes are written, see
`Calendar.ZoneReading`.
-/

namespace MovieCatalogue.Calendar

/-! ## Changes -/

/-- A day of every year. -/
inductive ChangeDay where
  /-- A day of the week, from Sunday as 0, in a month: the first one, the second one, or the last. -/
  | ofMonth (month week weekday : Nat)
  /-- A day of the year from 1; a leap day is not counted. -/
  | withoutLeapDay (number : Nat)
  /-- A day of the year from 0. -/
  | ofYear (number : Nat)
deriving DecidableEq, Repr

namespace ChangeDay

/-- The number of days from the last Sunday to a day. -/
def sinceSunday (day : Int) : Nat :=
  ((day + 4) % 7).toNat

/-- The day of a month on which a day of the week falls for some time, or for the last time. -/
def dayOfMonth (year : Int) (month week weekday : Nat) : Nat :=
  let first := 1 + (weekday + 7 - sinceSunday (dayNumber year month 1)) % 7
  let day := first + 7 * (week - 1)
  if daysInMonth year month < day then day - 7 else day

def inYear (year : Int) : ChangeDay → Int
  | .ofMonth month week weekday => dayNumber year month (dayOfMonth year month week weekday)
  | .withoutLeapDay number =>
    yearStart year + number - 1 + (if isLeap year && 60 ≤ number then 1 else 0)
  | .ofYear number => yearStart year + number

/-- The month of a day of a year, counted from 0. -/
def monthOfDay (year : Int) (day : Nat) : Nat :=
  ((List.range 12).filter fun month => daysBeforeMonth year (month + 1) ≤ day).length

def month (year : Int) : ChangeDay → Nat
  | .ofMonth month _ _ => month
  | day => monthOfDay year (day.inYear year - yearStart year).toNat

end ChangeDay

/-- A change of the clocks. -/
structure Change where
  day : ChangeDay
  /-- The seconds from the start of the day to the change, by the clocks before it. -/
  second : Nat
deriving DecidableEq, Repr

/-- What the clocks show when they are changed in a year. -/
def Change.shown (change : Change) (year : Int) : Int :=
  secondsAt (change.day.inYear year) + change.second

/-! ## Summer time -/

structure SummerTime where
  /-- The seconds by which clocks are ahead of universal time while it holds. -/
  ahead : Int
  start : Change
  finish : Change
deriving DecidableEq, Repr

namespace SummerTime

/-- The second at which it starts in a year, given by how much clocks are ahead before. -/
def startOf (summer : SummerTime) (ahead : Int) (year : Int) : Int :=
  summer.start.shown year - ahead

/-- The second at which it ends in a year. -/
def finishOf (summer : SummerTime) (year : Int) : Int :=
  summer.finish.shown year - summer.ahead

/-- Whether it holds at a second of a year, given by how much clocks are ahead without it. -/
def holds (summer : SummerTime) (ahead : Int) (year : Int) (second : Int) : Bool :=
  let years := [year - 1, year, year + 1]
  let start := summer.startOf ahead
  if start year ≤ summer.finishOf year then
    years.any fun year => start year ≤ second && second < summer.finishOf year
  else !(years.any fun year => summer.finishOf year ≤ second && second < start year)

/-- The clocks of a year, in which they are changed twice. -/
structure ClockYear where
  /-- By how much the clocks are ahead at the start and at the end of the year. -/
  outer : Int
  /-- By how much they are ahead between the changes. -/
  inner : Int
  /-- What they show at the changes. -/
  first : Int
  second : Int
deriving DecidableEq, Repr

/-- The clocks of a year, given by how much they are ahead without summer time. -/
def clockYear (summer : SummerTime) (ahead : Int) (year : Int) : ClockYear :=
  let start := summer.start.shown year
  let finish := summer.finish.shown year
  if summer.start.day.month year < summer.finish.day.month year then
    ⟨ahead, summer.ahead, start, finish⟩
  else ⟨summer.ahead, ahead, finish, start⟩

/-- By how much the clocks of a year are ahead when they show a time, if they show it once. -/
def ClockYear.aheadWhenShown? (clocks : ClockYear) (shown : Int) : Option Int :=
  let shift := clocks.inner - clocks.outer
  if shift = 0 then some clocks.outer
  else if 0 < shift then
    if shown ≤ clocks.first then some clocks.outer
    else if shown < clocks.first + shift then none
    else if shown < clocks.second - shift then some clocks.inner
    else if shown ≤ clocks.second then none
    else some clocks.outer
  else
    if shown < clocks.first + shift then some clocks.outer
    else if shown ≤ clocks.first then none
    else if shown < clocks.second then some clocks.inner
    else if shown < clocks.second - shift then none
    else some clocks.outer

end SummerTime

end MovieCatalogue.Calendar

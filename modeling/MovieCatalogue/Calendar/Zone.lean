import MovieCatalogue.Calendar.Component
import MovieCatalogue.Calendar.SummerTime

/-!
Contract: time zones.

Owns: `Zone`, by how much the clocks of a place are ahead of universal time, in
summer perhaps by another amount; `LocalMoment`, a moment with the zone in which it
is read; and the times that the clocks of a zone show.
Does not own: the description of a zone, see `Calendar.ZoneReading`; the numbers that
moments are made of, see `Calendar.Component`.
-/

namespace MovieCatalogue.Calendar

open MovieCatalogue.Number

/-! ## Offsets -/

/-- The sign of a distance from universal time. -/
def offsetSign (ahead : Int) : Char :=
  if ahead < 0 then '-' else '+'

/-- Minutes as hours and minutes, with a separator between them. -/
def minuteChars (separator : List Char) (minutes : Nat) : List Char :=
  paddedDigits 2 (minutes / 60) ++ separator ++ paddedDigits 2 (minutes % 60)

/-- A distance from universal time in hours and minutes, and in seconds if it has any. -/
def offsetName (ahead : Int) : List Char :=
  let seconds := ahead.natAbs
  offsetSign ahead :: minuteChars [':'] (seconds / 60) ++
    if seconds % 60 = 0 then [] else ':' :: paddedDigits 2 (seconds % 60)

/-! ## Zones -/

structure Zone where
  /-- The seconds by which its clocks are ahead of universal time, but for summer time. -/
  ahead : Int
  summer : Option SummerTime := none
  /-- Its name; a zone without one is called by the distance from universal time. -/
  name : Option String := none
deriving DecidableEq, Repr

namespace Zone

/-- Universal time by its own name. -/
def universal : Zone := { ahead := 0, name := some "UTC" }

/-- The seconds by which the clocks are ahead at a moment. -/
def aheadAt (zone : Zone) (moment : Moment) : Int :=
  match zone.summer with
  | some summer =>
    if summer.holds zone.ahead moment.year moment.seconds then summer.ahead else zone.ahead
  | none => zone.ahead

/-- The second at which the clocks show a time of a year, if there is just one. -/
def secondShown? (zone : Zone) (year : Int) (shown : Int) : Option Int := do
  let ahead ←
    match zone.summer with
    | some summer => (summer.clockYear zone.ahead year).aheadWhenShown? shown
    | none => some zone.ahead
  if isTime (shown - ahead) then some (shown - ahead) else none

end Zone

/-! ## Local moments -/

/-- A moment with the zone in which it is read. -/
structure LocalMoment where
  moment : Moment
  zone : Zone
deriving DecidableEq, Repr

namespace LocalMoment

/-- The seconds by which the clocks are ahead. -/
def ahead (present : LocalMoment) : Int :=
  present.zone.aheadAt present.moment

/-- The moment at which clocks of universal time show what the local ones show. -/
def shown (present : LocalMoment) : Moment :=
  ⟨(present.moment.millis + present.ahead * 1000).toNat⟩

def zoneName (present : LocalMoment) : List Char :=
  match present.zone.name with
  | some name => name.toList
  | none => offsetName present.ahead

/-- In universal time the clocks show the moment itself. -/
theorem shown_universal (moment : Moment) : (LocalMoment.mk moment .universal).shown = moment := by
  simp [LocalMoment.shown, LocalMoment.ahead, Zone.aheadAt, Zone.universal]

end LocalMoment

end MovieCatalogue.Calendar

import MovieCatalogue.Calendar.Component
import MovieCatalogue.Calendar.Zone

/-!
Contract: points of time written by a template.

Owns: templates, in which a percent sign with a letter stands for a component of a
moment, a name or an offset, and all else for itself. Between sign and letter may
stand how a number is filled up. A sign with anything else makes no template.
Does not own: where templates come from; see `Journal.LinePattern`.
-/

namespace MovieCatalogue.Calendar

open MovieCatalogue.Number

/-! ## Items -/

/-- How a number is filled up to its width. -/
inductive Filling where
  | zeros
  | blanks
  | none
deriving DecidableEq, Repr

/-- How the distance from universal time is written. -/
inductive OffsetForm where
  /-- Hours and minutes. -/
  | plain
  /-- Hours and minutes with a colon between them. -/
  | colon
  /-- Hours, minutes and seconds with colons between them. -/
  | full
  | hours
deriving DecidableEq, Repr

inductive TemplateItem where
  | text (cs : List Char)
  | number (component : Component) (filling : Filling)
  | monthName (short : Bool)
  | dayName (short : Bool)
  /-- The half of the day, in capital letters or in small ones. -/
  | half (capital : Bool)
  | zone
  | offset (form : OffsetForm)
  /-- So many digits of the fraction of the second. -/
  | fraction (digits : Nat)
  /-- The fraction of the second behind a point, if there is one. -/
  | needed
deriving DecidableEq, Repr

abbrev Template := List TemplateItem

namespace TemplateItem

/-- A number that is filled up with zeros. -/
def zeros (component : Component) : TemplateItem :=
  .number component .zeros

def mark (c : Char) : TemplateItem :=
  .text [c]

def isoDate : Template :=
  [zeros .year, mark '-', zeros .month, mark '-', zeros .day]

/-- Month, day and the last digits of the year. -/
def slashDate : Template :=
  [zeros .month, mark '/', zeros .day, mark '/', zeros .yearOfCentury]

def clock : Template :=
  [zeros .hour, mark ':', zeros .minute, mark ':', zeros .second]

def shortDate : Template :=
  [.number .day .blanks, mark '-', .monthName true, mark '-', zeros .year]

/-- Names of day and month, day, time of day, and year. -/
def longMoment : Template :=
  [.dayName true, mark ' ', .monthName true, mark ' ', .number .day .blanks, mark ' '] ++
    clock ++ [mark ' ', zeros .year]

/-- Hour of the half day, minute, second, and the half. -/
def halfClock : Template :=
  [zeros .halfHour, mark ':', zeros .minute, mark ':', zeros .second, mark ' ', .half true]

def isoMoment : Template :=
  isoDate ++ [mark 'T'] ++ clock ++ [.needed, .offset .colon]

end TemplateItem

/-! ## Writing -/

/-- A number that is filled up to a width. -/
def filled (filling : Filling) (width n : Nat) : List Char :=
  let ds := digits n
  match filling with
  | .zeros => paddedDigits width n
  | .blanks => List.replicate (width - ds.length) ' ' ++ ds
  | .none => ds

namespace TemplateItem

/-- A name, or the first three letters of it. -/
def nameChars (short : Bool) (name : String) : List Char :=
  if short then name.toList.take 3 else name.toList

/-- The distance from universal time. Where seconds are not written, they are rounded to minutes. -/
def offsetChars (ahead : Int) (form : OffsetForm) : List Char :=
  let seconds := ahead.natAbs
  let minutes := (seconds + 30) / 60
  offsetSign ahead ::
    match form with
    | .plain => minuteChars [] minutes
    | .colon => minuteChars [':'] minutes
    | .full => minuteChars [':'] (seconds / 60) ++ ':' :: paddedDigits 2 (seconds % 60)
    | .hours => paddedDigits 2 (seconds / 3600)

/-- The value of a component as the clocks show it. -/
def componentValue (present : LocalMoment) (component : Component) : Nat :=
  component.value (if component = .elapsed then present.moment else present.shown)

def chars (present : LocalMoment) : TemplateItem → List Char
  | .text cs => cs
  | .number component filling =>
    filled filling component.width (componentValue present component)
  | .monthName short => nameChars short present.shown.monthName
  | .dayName short => nameChars short present.shown.dayName
  | .half capital =>
    let name := if present.shown.hour < 12 then "am" else "pm"
    (if capital then name.map Char.toUpper else name).toList
  | .zone => present.zoneName
  | .offset form => offsetChars present.ahead form
  | .fraction count => (paddedDigits 9 (componentValue present .nanosecond)).take count
  | .needed =>
    let thousandths := present.moment.millis % 1000
    if thousandths = 0 then [] else '.' :: paddedDigits 3 thousandths

end TemplateItem

def LocalMoment.written (present : LocalMoment) (template : Template) : List Char :=
  template.flatMap (TemplateItem.chars present)

/-! ## Reading -/

namespace Template

/-- The component of a letter, and how it is filled up unless something else is asked for. -/
def componentOf? : Char → Option (Component × Filling)
  | 'Y' => some (.year, .zeros)
  | 'C' => some (.century, .zeros)
  | 'y' => some (.yearOfCentury, .zeros)
  | 'G' => some (.weekYear, .zeros)
  | 'g' => some (.weekYearOfCentury, .zeros)
  | 'q' => some (.quarter, .none)
  | 'm' => some (.month, .zeros)
  | 'd' => some (.day, .zeros)
  | 'e' => some (.day, .blanks)
  | 'j' => some (.dayOfYear, .zeros)
  | 'V' => some (.week, .zeros)
  | 'U' => some (.sundayWeek, .zeros)
  | 'W' => some (.mondayWeek, .zeros)
  | 'w' => some (.fromSunday, .none)
  | 'u' => some (.fromMonday, .none)
  | 'H' => some (.hour, .zeros)
  | 'k' => some (.hour, .blanks)
  | 'I' => some (.halfHour, .zeros)
  | 'l' => some (.halfHour, .blanks)
  | 'M' => some (.minute, .zeros)
  | 'S' => some (.second, .zeros)
  | 'f' => some (.nanosecond, .zeros)
  | 's' => some (.elapsed, .none)
  | _ => none

open TemplateItem in
/-- What a letter stands for that is no component. -/
def itemsOf? : Char → Option Template
  | 'B' => some [.monthName false]
  | 'b' | 'h' => some [.monthName true]
  | 'A' => some [.dayName false]
  | 'a' => some [.dayName true]
  | 'p' => some [.half true]
  | 'P' => some [.half false]
  | 'Z' => some [.zone]
  | 'z' => some [.offset .plain]
  | 'F' => some isoDate
  | 'D' | 'x' => some slashDate
  | 'v' => some shortDate
  | 'T' | 'X' => some clock
  | 'R' => some [zeros .hour, mark ':', zeros .minute]
  | 'r' => some halfClock
  | 'c' => some longMoment
  | '+' => some isoMoment
  | 't' => some [mark '\t']
  | 'n' => some [mark '\n']
  | '%' => some [mark '%']
  | _ => none

def fillingOf? : Char → Option Filling
  | '-' => some .none
  | '0' => some .zeros
  | '_' => some .blanks
  | _ => none

/-- The digits of the fraction that a digit asks for. -/
def fractionDigits? : Char → Option Nat
  | '3' => some 3
  | '6' => some 6
  | '9' => some 9
  | _ => none

/-- A letter behind its percent sign. -/
def letter? (c : Char) : Option Template :=
  match componentOf? c with
  | some (component, filling) => some [.number component filling]
  | none => itemsOf? c

/-- A number that is filled up as its mark asks for, or so many digits of a fraction. -/
def markedItem? (mark letter : Char) : Option TemplateItem :=
  match fillingOf? mark with
  | some filling => (componentOf? letter).map fun (component, _) => .number component filling
  | none => if letter = 'f' then (fractionDigits? mark).map .fraction else none

/-- Whether a letter has a mark before it. -/
def isMark (c : Char) : Bool :=
  (fillingOf? c).isSome || (fractionDigits? c).isSome

/-- The template of a text, if it is one. -/
def ofChars? : List Char → Option Template
  | [] => some []
  | '%' :: ':' :: ':' :: ':' :: 'z' :: cs => (ofChars? cs).map (.offset .hours :: ·)
  | '%' :: ':' :: ':' :: 'z' :: cs => (ofChars? cs).map (.offset .full :: ·)
  | '%' :: ':' :: 'z' :: cs => (ofChars? cs).map (.offset .colon :: ·)
  | '%' :: '.' :: 'f' :: cs => (ofChars? cs).map (.needed :: ·)
  | '%' :: '.' :: digit :: 'f' :: cs => do
    let count ← fractionDigits? digit
    return TemplateItem.mark '.' :: .fraction count :: (← ofChars? cs)
  | '%' :: c :: letter :: cs =>
    if isMark c then do return (← markedItem? c letter) :: (← ofChars? cs)
    else do return (← letter? c) ++ (← ofChars? (letter :: cs))
  | ['%', c] => letter? c
  | ['%'] => none
  | c :: cs => (ofChars? cs).map (TemplateItem.mark c :: ·)

end Template

end MovieCatalogue.Calendar

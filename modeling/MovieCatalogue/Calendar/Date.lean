import MovieCatalogue.Number.Digits

/-!
Contract: calendar dates.

Owns: `Date`, a day of the proleptic Gregorian calendar within the years that a
date may have, its chronological order, and its written form: four digits for
the years 0 to 9999, a sign and at least four digits for all others.
Does not own: reading; see `Calendar.Reading`.
-/

namespace MovieCatalogue.Calendar

open MovieCatalogue

/-- The first year that a date may have. -/
def firstYear : Int := -262143

/-- The last year that a date may have. -/
def lastYear : Int := 262142

/-- Whether February has 29 days. -/
def isLeap (year : Int) : Bool :=
  year % 4 = 0 && (year % 100 ≠ 0 || year % 400 = 0)

/-- The number of days of a month, zero for a number that is no month. -/
def daysInMonth (year : Int) (month : Nat) : Nat :=
  match month with
  | 1 | 3 | 5 | 7 | 8 | 10 | 12 => 31
  | 4 | 6 | 9 | 11 => 30
  | 2 => if isLeap year then 29 else 28
  | _ => 0

/-- Whether three numbers name a day. -/
def IsDate (year : Int) (month day : Nat) : Prop :=
  firstYear ≤ year ∧ year ≤ lastYear ∧ 1 ≤ day ∧ day ≤ daysInMonth year month

instance (year : Int) (month day : Nat) : Decidable (IsDate year month day) := by
  unfold IsDate
  infer_instance

structure Date where
  year : Int
  month : Nat
  day : Nat
  valid : IsDate year month day
deriving DecidableEq, Repr

namespace Date

/-- The date of three numbers, if there is such a day. -/
def of? (year : Int) (month day : Nat) : Option Date :=
  if valid : IsDate year month day then some ⟨year, month, day, valid⟩ else none

/-- Chronological order. -/
def compare (a b : Date) : Ordering :=
  (Ord.compare a.year b.year).then ((Ord.compare a.month b.month).then (Ord.compare a.day b.day))

/-- A year: four digits, or a sign and at least four digits outside 0 to 9999. -/
def yearChars (year : Int) : List Char :=
  if 0 ≤ year ∧ year ≤ 9999 then Number.paddedDigits 4 year.natAbs
  else (if year < 0 then '-' else '+') :: Number.paddedDigits 4 year.natAbs

/-- The written form, year, month and day joined by hyphens. -/
def chars (d : Date) : List Char :=
  yearChars d.year ++ '-' :: Number.paddedDigits 2 d.month ++ '-' :: Number.paddedDigits 2 d.day

def text (d : Date) : String :=
  String.ofList d.chars

end Date

end MovieCatalogue.Calendar

import MovieCatalogue.Calendar.Date
import MovieCatalogue.Text.Blank

/-!
Contract: dates from texts.

Owns: the grammar of a written date and its errors. A year is an optional sign
and digits, at most four of them without a sign; a month and a day have one or
two digits. Blanks are skipped before each number; the lenient form skips them
before each hyphen and after the day too. The first fault in reading order is
the one reported, and only a text without faults is checked for being a date.
Does not own: the written form; see `Calendar.Date`.
-/

namespace MovieCatalogue.Calendar

open MovieCatalogue

/-- Why a text is no date. -/
inductive DateError where
  | tooShort
  | invalid
  | outOfRange
  | tooLong
deriving DecidableEq, Repr

def DateError.message : DateError → String
  | .tooShort => "premature end of input"
  | .invalid => "input contains invalid characters"
  | .outOfRange => "input is out of range"
  | .tooLong => "trailing input"

/-- Whether blanks may stand before a hyphen and after the day. -/
inductive Spacing where
  | strict
  | lenient
deriving DecidableEq, Repr

/-- A number of at least one and at most `most` digits, and what follows it. -/
def readNumber (most : Nat) (cs : List Char) : Except DateError (Nat × List Char) :=
  let ds := (cs.take most).takeWhile Number.isDigit
  if ds.isEmpty then .error (if cs.isEmpty then .tooShort else .invalid)
  else .ok (Number.valueOf ds, cs.drop ds.length)

/-- A number of any length that starts the text. -/
def readLongNumber (cs : List Char) : Except DateError (Nat × List Char) :=
  readNumber cs.length cs

def readYear (cs : List Char) : Except DateError (Int × List Char) := do
  let (year, rest) ←
    match Text.trimStart cs with
    | '-' :: tail => (readLongNumber tail).map fun (n, rest) => (-(n : Int), rest)
    | '+' :: tail => (readLongNumber tail).map fun (n, rest) => ((n : Int), rest)
    | tail => (readNumber 4 tail).map fun (n, rest) => ((n : Int), rest)
  if -(2 ^ 31) ≤ year ∧ year < 2 ^ 31 then .ok (year, rest) else .error .outOfRange

/-- A number of one or two digits between one and `last`. -/
def readPart (last : Nat) (cs : List Char) : Except DateError (Nat × List Char) := do
  let (n, rest) ← readNumber 2 (Text.trimStart cs)
  if 1 ≤ n ∧ n ≤ last then .ok (n, rest) else .error .outOfRange

def Spacing.skip (spacing : Spacing) (cs : List Char) : List Char :=
  match spacing with
  | .strict => cs
  | .lenient => Text.trimStart cs

def readHyphen : List Char → Except DateError (List Char)
  | [] => .error .tooShort
  | c :: cs => if c = '-' then .ok cs else .error .invalid

def readDate (spacing : Spacing) (cs : List Char) : Except DateError Date := do
  let (year, rest) ← readYear cs
  let rest ← readHyphen (spacing.skip rest)
  let (month, rest) ← readPart 12 rest
  let rest ← readHyphen (spacing.skip rest)
  let (day, rest) ← readPart 31 rest
  if (spacing.skip rest).isEmpty then
    match Date.of? year month day with
    | some date => .ok date
    | none => .error .outOfRange
  else .error .tooLong

end MovieCatalogue.Calendar

import MovieCatalogue.Number.Integer
import MovieCatalogue.Text.Blank
import MovieCatalogue.Text.Quoted

/-!
Contract: durations from texts.

Owns: the grammar of a written duration, which is one or more numbers with their
units, and its errors. A number may have a fraction, which must come to whole
nanoseconds, or to whole seconds where the unit is an hour or longer. Blanks may
stand around numbers, and between their digits. The first fault in reading order
is the one reported, with a number of bytes before it.
Does not own: what durations are for.
-/

namespace MovieCatalogue.Calendar

open MovieCatalogue.Number

/-- Why a text is no duration. -/
inductive DurationFault where
  | nothing
  | noNumber (offset : Nat)
  | badCharacter (offset : Nat)
  | noUnit (count : Nat)
  | unknownUnit (name : String)
  /-- More seconds than fit a word, or a part of the smallest step. -/
  | unfit
  /-- Nanoseconds that come to one second more than fits a word, which nobody provides for. -/
  | beyond
deriving DecidableEq, Repr

def DurationFault.message : DurationFault → String
  | .nothing => "value was empty"
  | .noNumber offset => "expected number at " ++ natText offset
  | .badCharacter offset => "invalid character at " ++ natText offset
  | .noUnit count =>
    "time unit needed, for example " ++ natText count ++ "sec or " ++ natText count ++ "ms"
  | .unknownUnit name =>
    "unknown time unit " ++ Text.quoted name ++ ", supported units: ns, us/µs, ms, sec, min, " ++
      "hours, days, weeks, months, years (and few variations)"
  | .unfit | .beyond =>
    "number is too large or cannot be represented without a lack of precision " ++
      "(values below 1ns are not supported)"

/-! ## Spans and units -/

/-- A span of time: seconds that fit a word, and nanoseconds below a second. -/
structure Span where
  seconds : Nat := 0
  nanos : Nat := 0
deriving DecidableEq, Repr

def nanosPerSecond : Nat := 1000000000

/-- A number that fits a word. -/
def fitting (n : Nat) : Except DurationFault Nat :=
  if n ≤ maxWord then .ok n else .error .unfit

/-- A quotient without a remainder. -/
def exactQuotient (n divisor : Nat) : Except DurationFault Nat :=
  if n % divisor = 0 then .ok (n / divisor) else .error .unfit

/-- A span of seconds and nanoseconds, of which a whole second of nanoseconds is one second more. -/
def Span.of (seconds nanos : Nat) : Except DurationFault Span :=
  if nanos < nanosPerSecond then .ok ⟨seconds, nanos⟩
  else if seconds < maxWord then .ok ⟨seconds + 1, nanos - nanosPerSecond⟩
  else .error .beyond

/-- A span with more seconds and nanoseconds, of which there may be more than come to a second. -/
def Span.add (span : Span) (seconds nanos : Nat) : Except DurationFault Span := do
  let nanos ← fitting (span.nanos + nanos)
  if nanos ≤ nanosPerSecond then
    Span.of (← fitting (span.seconds + seconds)) nanos
  else
    let seconds ← fitting (span.seconds + seconds + nanos / nanosPerSecond)
    Span.of seconds (nanos % nanosPerSecond)

/-- A number of seconds or of nanoseconds. -/
inductive Step where
  | seconds (count : Nat)
  | nanos (count : Nat)
deriving DecidableEq, Repr

structure TimeUnit where
  whole : Step
  /-- What the fraction of a number is taken of, if it may have one. -/
  fraction : Option Step
deriving DecidableEq, Repr

def TimeUnit.short (nanos : Nat) : TimeUnit := ⟨.nanos nanos, some (.nanos nanos)⟩

/-- A unit of seconds with fractions in nanoseconds. -/
def TimeUnit.medium (seconds : Nat) : TimeUnit :=
  ⟨.seconds seconds, some (.nanos (seconds * nanosPerSecond))⟩

/-- A unit of seconds with fractions in seconds. -/
def TimeUnit.long (seconds : Nat) : TimeUnit := ⟨.seconds seconds, some (.seconds seconds)⟩

def timeUnit? : String → Option TimeUnit
  | "nanos" | "nsec" | "ns" => some ⟨.nanos 1, none⟩
  | "usec" | "us" | "µs" => some (.short 1000)
  | "millis" | "msec" | "ms" => some (.short 1000000)
  | "seconds" | "second" | "secs" | "sec" | "s" => some (.medium 1)
  | "minutes" | "minute" | "mins" | "min" | "m" => some (.medium 60)
  | "hours" | "hour" | "hrs" | "hr" | "h" => some (.long 3600)
  | "days" | "day" | "d" => some (.long 86400)
  | "weeks" | "week" | "wks" | "wk" | "w" => some (.long (7 * 86400))
  | "months" | "month" | "M" => some (.long 2630016)
  | "years" | "year" | "yrs" | "yr" | "y" => some (.long 31557600)
  | _ => none

/-! ## Numbers with units -/

/-- The digits behind the point of a number, as a quotient. -/
structure Fraction where
  numerator : Nat
  denominator : Nat
deriving DecidableEq, Repr

/-- A number, which may have a fraction. -/
structure Amount where
  count : Nat
  fraction : Option Fraction := none
deriving DecidableEq, Repr

/-- A span with a quotient of a step more. -/
def Span.addStep (span : Span) (numerator denominator : Nat) :
    Step → Except DurationFault Span
  | .seconds count => do
    span.add (← exactQuotient (← fitting (numerator * count)) denominator) 0
  | .nanos count => do
    span.add 0 (← exactQuotient (← fitting (numerator * count)) denominator)

def Span.addAmount (span : Span) (amount : Amount) (name : List Char) :
    Except DurationFault Span :=
  match timeUnit? (String.ofList name) with
  | none =>
    .error (if name.isEmpty then .noUnit amount.count else .unknownUnit (String.ofList name))
  | some unit => do
    let span ← span.addStep amount.count 1 unit.whole
    match amount.fraction, unit.fraction with
    | none, _ => return span
    | some _, none => throw .unfit
    | some fraction, some step => span.addStep fraction.numerator fraction.denominator step

/-! ## Reading -/

/-- A text that is left, and the number of bytes before it. -/
structure Remainder where
  offset : Nat := 0
  chars : List Char
deriving DecidableEq, Repr

def isUnitLetter (c : Char) : Bool :=
  c.isAlpha || c == 'µ'

/-- A number with one digit more. -/
def addDigit (count : Nat) (c : Char) : Except DurationFault Nat :=
  fitting (count * 10 + digitValue c)

/-- Skips blanks up to a digit, counted from `start`; a blank text has none. -/
def findNumber (start offset : Nat) : List Char → Except DurationFault Remainder
  | [] => .ok ⟨offset, []⟩
  | c :: cs =>
    if Text.isBlank c then findNumber start (offset + c.utf8Size) cs
    else if isDigit c then .ok ⟨offset, c :: cs⟩
    else .error (.noNumber start)

/--
The digits behind a point up to a letter, of which there must be one. Faults are
counted from `mark`, which is the point until a character is passed.
-/
def readFraction (fraction : Fraction) (mark offset : Nat) :
    List Char → Except DurationFault (Fraction × Remainder)
  | [] =>
    if fraction.denominator = 1 then .error (.badCharacter mark)
    else .ok (fraction, ⟨offset, []⟩)
  | c :: cs =>
    let behind := offset + c.utf8Size
    if isDigit c then do
      let denominator ← fitting (fraction.denominator * 10)
      let numerator ← addDigit fraction.numerator c
      readFraction ⟨numerator, denominator⟩ behind behind cs
    else if Text.isBlank c then readFraction fraction behind behind cs
    else if isUnitLetter c && fraction.denominator ≠ 1 then .ok (fraction, ⟨offset, c :: cs⟩)
    else .error (.badCharacter mark)

/-- An amount up to its unit, of which `count` has been read. -/
def readAmount (count offset : Nat) : List Char → Except DurationFault (Amount × Remainder)
  | [] => .ok ({ count := count }, ⟨offset, []⟩)
  | c :: cs =>
    if isDigit c then do readAmount (← addDigit count c) (offset + 1) cs
    else if Text.isBlank c then readAmount count (offset + c.utf8Size) cs
    else if isUnitLetter c then .ok ({ count := count }, ⟨offset, c :: cs⟩)
    else if c = '.' then do
      let (fraction, rest) ← readFraction ⟨0, 1⟩ offset (offset + 1) cs
      return (⟨count, some fraction⟩, rest)
    else .error (.badCharacter offset)

/-- The letters of a unit up to a blank, which is passed, or a digit. -/
def readUnit (offset : Nat) : List Char → Except DurationFault (List Char × Remainder)
  | [] => .ok ([], ⟨offset, []⟩)
  | c :: cs =>
    if isDigit c then .ok ([], ⟨offset, c :: cs⟩)
    else if Text.isBlank c then .ok ([], ⟨offset + c.utf8Size, cs⟩)
    else if isUnitLetter c then
      (readUnit (offset + c.utf8Size) cs).map fun (unit, rest) => (c :: unit, rest)
    else .error (.badCharacter offset)

/-- A span with numbers and their units more, from a digit on. -/
def readAmounts (fuel : Nat) (span : Span) (rest : Remainder) : Except DurationFault Span :=
  match fuel with
  | 0 => .ok span
  | fuel + 1 => do
    let (amount, rest) ← readAmount 0 rest.offset rest.chars
    let (unit, rest) ← readUnit rest.offset rest.chars
    let span ← span.addAmount amount unit
    let rest ← findNumber rest.offset rest.offset rest.chars
    if rest.chars.isEmpty then return span
    readAmounts fuel span rest

def readDuration (s : String) : Except DurationFault Span := do
  let rest ← findNumber 0 0 s.toList
  if rest.chars.isEmpty then throw .nothing
  readAmounts s.toList.length {} rest

end MovieCatalogue.Calendar

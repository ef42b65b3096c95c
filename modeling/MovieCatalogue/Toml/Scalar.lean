import MovieCatalogue.Calendar.Date
import MovieCatalogue.Toml.Text
import MovieCatalogue.Toml.Value

/-!
Contract: TOML values without quotes.

Owns: integers in their four bases; truth values; and the grammars of
floating-point numbers and of dates and times, which are kept as written. A token
that starts like an integer with underscores is a value even if it writes no
number: it is kept as written too, and whoever asks for its number finds none.
Where a value ends is owned here as well: a date takes the time behind one space
into the value.
Does not own: arrays and tables; see `Toml.Reader`.
-/

namespace MovieCatalogue.Toml

open MovieCatalogue.Json (hexValue?)
open MovieCatalogue.Number (isDigit valueOf)

/-! ## Integers -/

/-- Digits with single underscores between them. -/
def joinedDigits? (cs : List Char) : Option (List Char) :=
  let groups := Text.splitOn '_' cs
  if groups.any List.isEmpty then none else some groups.flatten

/-- The number of digits below a base. -/
def digitsValue? (base : Nat) (cs : List Char) : Option Nat := do
  let ds ← joinedDigits? cs
  ds.foldlM (fun acc c => ((hexValue? c).filter (· < base)).map fun d => acc * base + d) 0

/-- An unsigned decimal integer without superfluous zeros. -/
def decimal? (cs : List Char) : Option Nat :=
  if cs.length > 1 && cs.head? == some '0' then none else digitsValue? 10 cs

def integer? : List Char → Option Int
  | '0' :: 'x' :: ds => (digitsValue? 16 ds).map Int.ofNat
  | '0' :: 'o' :: ds => (digitsValue? 8 ds).map Int.ofNat
  | '0' :: 'b' :: ds => (digitsValue? 2 ds).map Int.ofNat
  | '+' :: ds => (decimal? ds).map Int.ofNat
  | '-' :: ds => (decimal? ds).map fun n => -(n : Int)
  | ds => (decimal? ds).map Int.ofNat

/-- The text behind a sign at its start. -/
def dropSign : List Char → List Char
  | '+' :: cs | '-' :: cs => cs
  | cs => cs

/-- Whether every underscore of a text stands between two hexadecimal digits. -/
def hasJoinedDigits (cs : List Char) : Bool :=
  let isDigitOfAny (c : Char) : Bool := (hexValue? c).isSome
  let parts := Text.splitOn '_' cs
  (parts.zip parts.tail).all fun (left, right) =>
    left.getLast?.any isDigitOfAny && right.head?.any isDigitOfAny

/-- Whether a text has only digits below a base and underscores. It may be empty. -/
def isBasedToken (base : Nat) (cs : List Char) : Bool :=
  hasJoinedDigits cs && cs.all fun c => c == '_' || (hexValue? c).any (· < base)

/--
Whether a token is taken for an integer although it writes none: a mark of a base
without digits, or decimal digits with an underscore and anything behind it but
what makes a floating-point number.
-/
def isLikeInteger (token : List Char) : Bool :=
  match token with
  | '0' :: 'x' :: cs => isBasedToken 16 cs
  | '0' :: 'o' :: cs => isBasedToken 8 cs
  | '0' :: 'b' :: cs => isBasedToken 2 cs
  | _ =>
    let unsigned := dropSign token
    let rest := unsigned.dropWhile isDigit
    unsigned.head? != some '0' && rest.head? == some '_' && hasJoinedDigits unsigned &&
      !rest.any fun c => ['.', 'e', 'E', ' '].contains c

/-! ## Floating-point numbers -/

/-- Whether a text is a run of decimal digits with single underscores between them. -/
def isDigitRun (cs : List Char) : Bool :=
  (joinedDigits? cs).any fun ds => ds.all isDigit

/-- Whether a text is an exponent mark with its number. -/
def isPower : List Char → Bool
  | [] => false
  | mark :: cs => (mark == 'e' || mark == 'E') && isDigitRun (dropSign cs)

/--
Whether a token writes a floating-point number: infinity, no number, or an
integer followed by a fraction, an exponent or both.
-/
def isFloat (token : List Char) : Bool :=
  let unsigned := dropSign token
  let mantissa := unsigned.takeWhile fun c => c != 'e' && c != 'E'
  let power := unsigned.drop mantissa.length
  unsigned == ['i', 'n', 'f'] || unsigned == ['n', 'a', 'n'] ||
    match Text.splitOn '.' mantissa with
    | [whole] => (decimal? whole).isSome && isPower power
    | [whole, fraction] =>
      (decimal? whole).isSome && isDigitRun fraction && (power.isEmpty || isPower power)
    | _ => false

/-! ## Dates and times -/

/-- The number that exactly `count` digits write. -/
def fixedDigits? (count : Nat) (cs : List Char) : Option Nat :=
  if cs.length = count ∧ cs.all isDigit then some (valueOf cs) else none

/-- Whether a text is a calendar date of three numbers with hyphens between them. -/
def isDate (cs : List Char) : Bool :=
  match Text.splitOn '-' cs with
  | [year, month, day] =>
    match fixedDigits? 4 year, fixedDigits? 2 month, fixedDigits? 2 day with
    | some year, some month, some day => 1 ≤ day && day ≤ Calendar.daysInMonth year month
    | _, _, _ => false
  | _ => false

/-- Whether two texts are an hour and a minute. -/
def isClock (hour minute : List Char) : Bool :=
  (fixedDigits? 2 hour).any (· ≤ 23) && (fixedDigits? 2 minute).any (· ≤ 59)

/-- Whether a text is a second, which may be a leap second and may have a fraction. -/
def isSecond (cs : List Char) : Bool :=
  match Text.splitOn '.' cs with
  | [whole] => (fixedDigits? 2 whole).any (· ≤ 60)
  | [whole, fraction] =>
    (fixedDigits? 2 whole).any (· ≤ 60) && !fraction.isEmpty && fraction.all isDigit
  | _ => false

def isTime (cs : List Char) : Bool :=
  match Text.splitOn ':' cs with
  | [hour, minute] => isClock hour minute
  | [hour, minute, second] => isClock hour minute && isSecond second
  | _ => false

/-- Whether a text is the distance from universal time, or nothing. -/
def isOffset : List Char → Bool
  | [] | ['Z'] | ['z'] => true
  | sign :: cs =>
    (sign == '+' || sign == '-') &&
      match Text.splitOn ':' cs with
      | [hour, minute] => isClock hour minute
      | _ => false

/-- Whether a text is a mark between date and time with the time behind it. -/
def isTimeOfDate : List Char → Bool
  | [] => false
  | mark :: cs =>
    let time := cs.takeWhile fun c => isDigit c || c == ':' || c == '.'
    (mark == 'T' || mark == 't' || mark == ' ') && isTime time && isOffset (cs.drop time.length)

def dateLength : Nat := 10

/-- Whether a token writes a time of day, a date, or a date with a time. -/
def isMoment (token : List Char) : Bool :=
  isTime token || isDate token ||
    (isDate (token.take dateLength) && isTimeOfDate (token.drop dateLength))

/-! ## Tokens -/

/-- A character of a value without quotes: all but blanks, line breaks and the marks between values. -/
def isTokenChar (c : Char) : Bool :=
  !(isBlank c || ['\n', '\r', '=', ',', '[', ']', '\x7b', '\x7d', '#'].contains c)

/-- The token at the start of the text, and what follows it. -/
def readToken (cs : List Char) : List Char × List Char :=
  let token := cs.takeWhile isTokenChar
  match cs.dropWhile isTokenChar with
  | ' ' :: c :: rest =>
    if isDate token && isDigit c then
      (token ++ ' ' :: (c :: rest).takeWhile isTokenChar, (c :: rest).dropWhile isTokenChar)
    else (token, ' ' :: c :: rest)
  | rest => (token, rest)

def scalar? (token : List Char) : Option Toml :=
  match String.ofList token with
  | "true" => some (.boolean true)
  | "false" => some (.boolean false)
  | text =>
    match integer? token with
    | some n => some (.integer n)
    | none =>
      if isFloat token || isMoment token || isLikeInteger token then some (.other text) else none

end MovieCatalogue.Toml

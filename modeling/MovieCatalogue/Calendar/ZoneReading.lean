import MovieCatalogue.Calendar.Zone
import MovieCatalogue.Text.Cut

/-!
Contract: time zones from their descriptions.

Owns: the reading of a description, which is a name and by how much the clocks are
behind universal time, and perhaps both for summer time and the changes at its start
and at its end. Without an amount of its own, clocks are ahead by an hour more in
summer. Blanks may stand around a description, but not within it.
Does not own: what a zone means for a moment; see `Calendar.Zone`.
-/

namespace MovieCatalogue.Calendar.Zone

open MovieCatalogue.Number

/-! ## Numbers and names -/

def isNameChar (c : Char) : Bool :=
  c.isAlphanum || c == '+' || c == '-'

def isName (name : List Char) : Bool :=
  3 ≤ name.length && name.length ≤ 7 && name.all isNameChar

/-- The name at the start of a text, which may stand between angle brackets, and the rest. -/
def readName? (cs : List Char) : Option (List Char × List Char) := do
  let (name, rest) ←
    match cs with
    | '<' :: cs =>
      match cs.span (· != '>') with
      | (name, '>' :: rest) => some (name, rest)
      | _ => none
    | cs => some (cs.span Char.isAlpha)
  if isName name then some (name, rest) else none

/-- A number between two others at the start of a text, and the rest. -/
def readNumber? (least most : Nat) (cs : List Char) : Option (Nat × List Char) :=
  match cs.span isDigit with
  | ([], _) => none
  | (digits, rest) =>
    let n := valueOf digits
    if least ≤ n && n ≤ most then some (n, rest) else none

/-- What follows a mark at the start of a text. -/
def passMark? (mark : Char) : List Char → Option (List Char)
  | c :: cs => if c = mark then some cs else none
  | [] => none

/-! ## Amounts -/

/-- A sixtieth of what stands before it, behind a colon, and the rest. -/
def readSixtieth? : List Char → Option (Option Nat × List Char)
  | ':' :: cs => (readNumber? 0 59 cs).map fun (n, rest) => (some n, rest)
  | cs => some (none, cs)

/-- The seconds of a time in hours, which may go on with minutes and seconds, and the rest. -/
def readHours? (cs : List Char) : Option (Nat × List Char) := do
  let (hours, cs) ← readNumber? 0 24 cs
  match ← readSixtieth? cs with
  | (none, cs) => return (hours * 3600, cs)
  | (some minutes, cs) =>
    let (seconds, cs) ← readSixtieth? cs
    return (hours * 3600 + minutes * 60 + seconds.getD 0, cs)

/-- The seconds by which clocks are behind universal time, and the rest. -/
def readBehind? : List Char → Option (Int × List Char)
  | '-' :: cs => (readHours? cs).map fun (n, rest) => (-(n : Int), rest)
  | '+' :: cs => (readHours? cs).map fun (n, rest) => ((n : Int), rest)
  | cs => (readHours? cs).map fun (n, rest) => ((n : Int), rest)

/-- By how much clocks are ahead that are behind by less than a day. -/
def ahead? (behind : Int) : Option Int :=
  if behind.natAbs < secondsPerDay then some (-behind) else none

/-! ## Changes -/

def readChangeDay? : List Char → Option (ChangeDay × List Char)
  | 'M' :: cs => do
    let (month, cs) ← readNumber? 1 12 cs
    let (week, cs) ← readNumber? 1 5 (← passMark? '.' cs)
    let (weekday, cs) ← readNumber? 0 6 (← passMark? '.' cs)
    return (.ofMonth month week weekday, cs)
  | 'J' :: cs => (readNumber? 1 365 cs).map fun (n, rest) => (.withoutLeapDay n, rest)
  | cs => (readNumber? 0 365 cs).map fun (n, rest) => (.ofYear n, rest)

/-- A change, at two hours of its day unless a time follows a slash, and the rest. -/
def readChange? (cs : List Char) : Option (Change × List Char) := do
  let (day, cs) ← readChangeDay? cs
  match cs with
  | '/' :: cs => (readHours? cs).map fun (second, rest) => (⟨day, second⟩, rest)
  | cs => return (⟨day, 2 * 3600⟩, cs)

/-- Summer time, given by how much the clocks are behind without it. -/
def readSummer? (behind : Int) (cs : List Char) : Option SummerTime := do
  let (_, cs) ← readName? cs
  let (summerBehind, cs) ←
    match cs with
    | ',' :: _ => some (behind - 3600, cs)
    | _ => readBehind? cs
  let (start, cs) ← readChange? (← passMark? ',' cs)
  let (finish, cs) ← readChange? (← passMark? ',' cs)
  if cs.isEmpty then return ⟨← ahead? summerBehind, start, finish⟩ else none

/-! ## Descriptions -/

def isBlank (c : Char) : Bool :=
  c.isWhitespace || c == '\x0c'

/-- A text without the blanks around it. -/
def bare (cs : List Char) : List Char :=
  ((cs.dropWhile isBlank).reverse.dropWhile isBlank).reverse

def read? (text : String) : Option Zone := do
  let (_, cs) ← readName? (bare text.toList)
  let (behind, cs) ← readBehind? cs
  let ahead ← ahead? behind
  if cs.isEmpty then return { ahead := ahead }
  else return { ahead := ahead, summer := some (← readSummer? behind cs) }

/-- The zone of a place. Without a description that holds, it is ahead by nothing. -/
def ofDescription (text : Option String) : Zone :=
  (text.bind read?).getD { ahead := 0 }

end MovieCatalogue.Calendar.Zone

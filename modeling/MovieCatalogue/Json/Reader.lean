import MovieCatalogue.Json.Number

/-!
Contract: JSON values from texts.

Owns: the reader. It takes exactly the texts of the JSON grammar whose nesting
is at most `deepest` levels, whose numbers are in range and whose escapes denote
characters. Members are kept as written, repetitions included;
`Json.ofText` reduces them to one member for each name.
Does not own: what the members of an object mean.
-/

namespace MovieCatalogue.Json

/-- Why a text is no JSON value. -/
inductive FaultCause where
  | endOfText
  | expectedValue
  | expectedCommaOrEnd
  | expectedColon
  | expectedName
  | badString
  | badNumber
  | tooDeep
  | trailingCharacters
deriving DecidableEq, Repr

def FaultCause.message : FaultCause → String
  | .endOfText => "unexpected end of text"
  | .expectedValue => "expected value"
  | .expectedCommaOrEnd => "expected a comma or the end of the collection"
  | .expectedColon => "expected a colon"
  | .expectedName => "expected a member name"
  | .badString => "invalid string"
  | .badNumber => "invalid number"
  | .tooDeep => "nesting limit exceeded"
  | .trailingCharacters => "trailing characters"

/-- A fault with the text that was left when it was found. -/
structure Fault where
  cause : FaultCause
  rest : List Char
deriving DecidableEq, Repr

/-- A fault with the line and the column where it was found, both from one. -/
def Fault.message (text : List Char) (fault : Fault) : String :=
  let consumed := text.take (text.length - fault.rest.length)
  let line := (consumed.filter (· == '\n')).length + 1
  let column := (consumed.reverse.takeWhile (· != '\n')).length + 1
  fault.cause.message ++ " at line " ++ Number.natText line ++ " column " ++ Number.natText column

/-- Nesting beyond this many levels is refused. -/
def deepest : Nat := 127

/-- The four characters that may stand between tokens. -/
def isGap (c : Char) : Bool :=
  c == ' ' || c == '\t' || c == '\n' || c == '\r'

/-- Skips the characters between tokens. -/
def skipGap (cs : List Char) : List Char :=
  cs.dropWhile isGap

def hexValue? (c : Char) : Option Nat :=
  if '0' ≤ c ∧ c ≤ '9' then some (c.toNat - 48)
  else if 'a' ≤ c ∧ c ≤ 'f' then some (c.toNat - 87)
  else if 'A' ≤ c ∧ c ≤ 'F' then some (c.toNat - 55)
  else none

/-- The number of four hexadecimal digits. -/
def hexFour? (a b c d : Char) : Option Nat := do
  some ((((← hexValue? a) * 16 + (← hexValue? b)) * 16 + (← hexValue? c)) * 16 + (← hexValue? d))

/-- A shorter remainder of a text. -/
abbrev Shorter (cs : List Char) := { rest : List Char // rest.length < cs.length }

/-- The character of a code unit above the first plane needs the unit that follows it. -/
def readLowHalf? (high : Nat) (cs : List Char) :
    Option (Char × { rest : List Char // rest.length ≤ cs.length }) :=
  match cs with
  | '\\' :: 'u' :: a :: b :: c :: d :: rest =>
    match hexFour? a b c d with
    | some low =>
      if 0xDC00 ≤ low ∧ low ≤ 0xDFFF then
        some (Char.ofNat (0x10000 + (high - 0xD800) * 0x400 + (low - 0xDC00)),
          ⟨rest, by simp only [List.length_cons]; omega⟩)
      else none
    | none => none
  | _ => none

/-- The character of an escape, read behind its backslash. -/
def readEscape? (cs : List Char) : Option (Char × Shorter cs) :=
  match cs with
  | '"' :: rest => some ('"', ⟨rest, by simp⟩)
  | '\\' :: rest => some ('\\', ⟨rest, by simp⟩)
  | '/' :: rest => some ('/', ⟨rest, by simp⟩)
  | 'b' :: rest => some ('\x08', ⟨rest, by simp⟩)
  | 'f' :: rest => some ('\x0c', ⟨rest, by simp⟩)
  | 'n' :: rest => some ('\n', ⟨rest, by simp⟩)
  | 'r' :: rest => some ('\r', ⟨rest, by simp⟩)
  | 't' :: rest => some ('\t', ⟨rest, by simp⟩)
  | 'u' :: a :: b :: c :: d :: rest =>
    match hexFour? a b c d with
    | none => none
    | some unit =>
      if 0xD800 ≤ unit ∧ unit ≤ 0xDBFF then
        (readLowHalf? unit rest).map fun (c, tail) =>
          (c, ⟨tail.1, by have := tail.2; simp only [List.length_cons]; omega⟩)
      else if 0xDC00 ≤ unit ∧ unit ≤ 0xDFFF then none
      else some (Char.ofNat unit, ⟨rest, by simp only [List.length_cons]; omega⟩)
  | _ => none

/-- The rest of a string up to its closing quotation mark, and what follows it. -/
def readString (cs : List Char) : Except Fault (List Char × List Char) :=
  match cs with
  | [] => .error ⟨.endOfText, []⟩
  | '"' :: rest => .ok ([], rest)
  | '\\' :: rest =>
    match readEscape? rest with
    | none => .error ⟨.badString, rest⟩
    | some (c, tail) => (readString tail.1).map fun (text, after) => (c :: text, after)
  | c :: rest =>
    if c.toNat < 0x20 then .error ⟨.badString, c :: rest⟩
    else (readString rest).map fun (text, after) => (c :: text, after)
termination_by cs.length
decreasing_by
  · have := tail.2
    simp only [List.length_cons]
    omega
  · simp

/-- A word that stands for one value. -/
def readWord (word : List Char) (value : Json) (cs : List Char) :
    Except Fault (Json × List Char) :=
  match Text.stripStart? word cs with
  | some rest => .ok (value, rest)
  | none => .error ⟨.expectedValue, cs⟩

def readNumber (cs : List Char) : Except Fault (Json × List Char) :=
  match readNumberParts cs with
  | none => .error ⟨.badNumber, cs⟩
  | some (parts, rest) =>
    match parts.value? with
    | some value => .ok (value, rest)
    | none => .error ⟨.badNumber, cs⟩

mutual

/--
The value at the start of the text and what follows it. `levels` is the nesting
that is still allowed. A level of nesting costs a character and two calls, so
twice the length of the text is `fuel` enough.
-/
def readValue (fuel levels : Nat) (cs : List Char) : Except Fault (Json × List Char) :=
  match fuel with
  | 0 => .error ⟨.endOfText, cs⟩
  | fuel + 1 =>
    match skipGap cs with
    | [] => .error ⟨.endOfText, []⟩
    | 'n' :: rest => readWord ['u', 'l', 'l'] .null rest
    | 't' :: rest => readWord ['r', 'u', 'e'] (.bool true) rest
    | 'f' :: rest => readWord ['a', 'l', 's', 'e'] (.bool false) rest
    | '"' :: rest =>
      (readString rest).map fun (text, after) => (.string (String.ofList text), after)
    | '[' :: rest =>
      match levels with
      | 0 => .error ⟨.tooDeep, rest⟩
      | levels + 1 =>
        match skipGap rest with
        | ']' :: after => .ok (.array [], after)
        | other =>
          (readItems fuel levels other).map fun (items, after) => (.array items, after)
    | '\x7b' :: rest =>
      match levels with
      | 0 => .error ⟨.tooDeep, rest⟩
      | levels + 1 =>
        match skipGap rest with
        | '\x7d' :: after => .ok (.object [], after)
        | other =>
          (readMembers fuel levels other).map fun (members, after) => (.object members, after)
    | c :: rest =>
      if c = '-' ∨ Number.isDigit c then readNumber (c :: rest)
      else .error ⟨.expectedValue, c :: rest⟩

/-- The items of a nonempty array up to its closing bracket. -/
def readItems (fuel levels : Nat) (cs : List Char) : Except Fault (List Json × List Char) :=
  match fuel with
  | 0 => .error ⟨.endOfText, cs⟩
  | fuel + 1 => do
    let (item, rest) ← readValue fuel levels cs
    match skipGap rest with
    | ',' :: more =>
      let (items, after) ← readItems fuel levels more
      return (item :: items, after)
    | ']' :: after => return ([item], after)
    | [] => .error ⟨.endOfText, []⟩
    | other => .error ⟨.expectedCommaOrEnd, other⟩

/-- The members of a nonempty object up to its closing brace. -/
def readMembers (fuel levels : Nat) (cs : List Char) :
    Except Fault (List (String × Json) × List Char) :=
  match fuel with
  | 0 => .error ⟨.endOfText, cs⟩
  | fuel + 1 => do
    match skipGap cs with
    | [] => .error ⟨.endOfText, []⟩
    | '"' :: rest =>
      let (name, rest) ← readString rest
      match skipGap rest with
      | ':' :: rest =>
        let (value, rest) ← readValue fuel levels rest
        let member := (String.ofList name, value)
        match skipGap rest with
        | ',' :: more =>
          let (members, after) ← readMembers fuel levels more
          return (member :: members, after)
        | '\x7d' :: after => return ([member], after)
        | [] => .error ⟨.endOfText, []⟩
        | other => .error ⟨.expectedCommaOrEnd, other⟩
      | [] => .error ⟨.endOfText, []⟩
      | other => .error ⟨.expectedColon, other⟩
    | other => .error ⟨.expectedName, other⟩

end

/-- The value that fills the text, its members as written. -/
def readAll (cs : List Char) : Except Fault Json := do
  let (json, rest) ← readValue (2 * cs.length + 1) deepest cs
  match skipGap rest with
  | [] => return json
  | other => .error ⟨.trailingCharacters, other⟩

/-- The value that fills the text, its members as written, or the text of the fault. -/
def ofTextAsWritten (s : String) : Except String Json :=
  (readAll s.toList).mapError (Fault.message s.toList)

/-- The value that fills the text, with one member for each name, or the text of the fault. -/
def ofText (s : String) : Except String Json :=
  (ofTextAsWritten s).map collapse

end MovieCatalogue.Json

import MovieCatalogue.Json.Reader

/-!
Contract: chosen members of JSON texts.

Owns: the skipping of values that nobody asks for, and the reader of a text of
which only chosen members are wanted. A skipped value has the form of a JSON
value and no more: its nesting, the range of its numbers and the characters that
its escapes denote are not looked at. Every other part of the text is read as
`Json.Reader` reads it. A text may also come as bytes: those that belong to no
character may stand in skipped strings and nowhere else.
Does not own: what the chosen members mean.
-/

namespace MovieCatalogue.Json

/-! ## Skipping -/

/-- The characters that stand behind a backslash for one character. -/
def isShortEscape (c : Char) : Bool :=
  ['"', '\\', '/', 'b', 'f', 'n', 'r', 't'].contains c

/-- The text behind the closing quotation mark of a string. -/
def skipString : List Char → Except Fault (List Char)
  | [] => .error ⟨.endOfText, []⟩
  | '"' :: rest => .ok rest
  | '\\' :: 'u' :: a :: b :: c :: d :: rest =>
    if (hexFour? a b c d).isSome then skipString rest
    else .error ⟨.badString, a :: b :: c :: d :: rest⟩
  | '\\' :: c :: rest =>
    if isShortEscape c then skipString rest else .error ⟨.badString, c :: rest⟩
  | c :: rest =>
    if c.toNat < 0x20 then .error ⟨.badString, c :: rest⟩ else skipString rest

/-- The text behind a number. -/
def skipNumber (cs : List Char) : Except Fault (List Char) :=
  match readNumberParts cs with
  | some (_, rest) => .ok rest
  | none => .error ⟨.badNumber, cs⟩

/-- The text behind a word. -/
def skipWord (word : List Char) (cs : List Char) : Except Fault (List Char) :=
  match Text.stripStart? word cs with
  | some rest => .ok rest
  | none => .error ⟨.expectedValue, cs⟩

mutual

/-- The text behind the value at its start. -/
def skipValue (fuel : Nat) (cs : List Char) : Except Fault (List Char) :=
  match fuel with
  | 0 => .error ⟨.endOfText, cs⟩
  | fuel + 1 =>
    match skipGap cs with
    | [] => .error ⟨.endOfText, []⟩
    | 'n' :: rest => skipWord ['u', 'l', 'l'] rest
    | 't' :: rest => skipWord ['r', 'u', 'e'] rest
    | 'f' :: rest => skipWord ['a', 'l', 's', 'e'] rest
    | '"' :: rest => skipString rest
    | '[' :: rest =>
      match skipGap rest with
      | ']' :: after => .ok after
      | other => skipItems fuel other
    | '\x7b' :: rest =>
      match skipGap rest with
      | '\x7d' :: after => .ok after
      | other => skipMembers fuel other
    | c :: rest =>
      if c = '-' ∨ Number.isDigit c then skipNumber (c :: rest)
      else .error ⟨.expectedValue, c :: rest⟩

/-- The text behind the items of a nonempty array and its closing bracket. -/
def skipItems (fuel : Nat) (cs : List Char) : Except Fault (List Char) :=
  match fuel with
  | 0 => .error ⟨.endOfText, cs⟩
  | fuel + 1 => do
    match skipGap (← skipValue fuel cs) with
    | ',' :: more => skipItems fuel more
    | ']' :: after => return after
    | [] => .error ⟨.endOfText, []⟩
    | other => .error ⟨.expectedCommaOrEnd, other⟩

/-- The text behind the members of a nonempty object and its closing brace. -/
def skipMembers (fuel : Nat) (cs : List Char) : Except Fault (List Char) :=
  match fuel with
  | 0 => .error ⟨.endOfText, cs⟩
  | fuel + 1 => do
    match skipGap cs with
    | [] => .error ⟨.endOfText, []⟩
    | '"' :: rest =>
      match skipGap (← skipString rest) with
      | ':' :: rest =>
        match skipGap (← skipValue fuel rest) with
        | ',' :: more => skipMembers fuel more
        | '\x7d' :: after => return after
        | [] => .error ⟨.endOfText, []⟩
        | other => .error ⟨.expectedCommaOrEnd, other⟩
      | [] => .error ⟨.endOfText, []⟩
      | other => .error ⟨.expectedColon, other⟩
    | other => .error ⟨.expectedName, other⟩

end

/-! ## Choosing -/

/-- The chosen members of a nonempty object up to its closing brace. -/
def readChosen (chosen : List String) (fuel levels : Nat) (cs : List Char) :
    Except Fault (List (String × Json) × List Char) :=
  match fuel with
  | 0 => .error ⟨.endOfText, cs⟩
  | fuel + 1 => do
    match skipGap cs with
    | [] => .error ⟨.endOfText, []⟩
    | '"' :: rest =>
      let (chars, rest) ← readString rest
      let name := String.ofList chars
      match skipGap rest with
      | ':' :: rest =>
        let (found, rest) ←
          if chosen.contains name then
            (readValue fuel levels rest).map fun (value, rest) => ([(name, value)], rest)
          else (skipValue fuel rest).map fun rest => ([], rest)
        match skipGap rest with
        | ',' :: more =>
          let (members, after) ← readChosen chosen fuel levels more
          return (found ++ members, after)
        | '\x7d' :: after => return (found, after)
        | [] => .error ⟨.endOfText, []⟩
        | other => .error ⟨.expectedCommaOrEnd, other⟩
      | [] => .error ⟨.endOfText, []⟩
      | other => .error ⟨.expectedColon, other⟩
    | other => .error ⟨.expectedName, other⟩

/-- The value at the start of the text; of an object, the chosen members only. -/
def readOutline (chosen : List String) (fuel levels : Nat) (cs : List Char) :
    Except Fault (Json × List Char) :=
  match skipGap cs, levels with
  | '\x7b' :: rest, levels + 1 =>
    match skipGap rest with
    | '\x7d' :: after => .ok (.object [], after)
    | other =>
      (readChosen chosen fuel levels other).map fun (members, after) => (.object members, after)
  | _, _ => readValue fuel levels cs

/-- The value that fills the text; of an object, the chosen members only. -/
def readOutlineAll (chosen : List String) (cs : List Char) : Except Fault Json := do
  let (json, rest) ← readOutline chosen (2 * cs.length + 1) deepest cs
  match skipGap rest with
  | [] => return json
  | other => .error ⟨.trailingCharacters, other⟩

/--
The value that fills the text, its members as written and, if it is an object,
the chosen ones only, or the text of the fault.
-/
def ofTextChoosing (chosen : List String) (s : String) : Except String Json :=
  (readOutlineAll chosen s.toList).mapError (Fault.message s.toList)

/-! ## Bytes -/

/--
What stands for a byte that belongs to no character: a character that no token has,
so that the byte is refused outside strings and behind a backslash, and half of an
escape, which is skipped but not read.
-/
def strayMark : List Char :=
  ['\ufffd', '\\', 'u', 'd', 'c', '0', '0']

/-- The characters that bytes from a place on stand for, and a mark for every byte that belongs to
none. -/
def charsFrom (bytes : ByteArray) (place : Nat) : List Char :=
  if place < bytes.size then
    match bytes.utf8DecodeChar? place with
    | some c => c :: charsFrom bytes (place + c.utf8Size)
    | none => strayMark ++ charsFrom bytes (place + 1)
  else []
termination_by bytes.size - place
decreasing_by
  · have := c.utf8Size_pos
    omega
  · omega

def textOfBytes (bytes : ByteArray) : String :=
  String.ofList (charsFrom bytes 0)

end MovieCatalogue.Json

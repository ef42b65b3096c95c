import MovieCatalogue.Yaml.Scalar

/-!
Contract: tokens of YAML.

Owns: `Token`, a piece of a text with its start and its end; and the reading of
names, tags and directives, which are tokens on one line.
Does not own: which tokens stand where; see `Yaml.TokenStream`.
-/

namespace MovieCatalogue.Yaml

/-- How a scalar is written. -/
inductive Style where
  | plain
  | quoted
  | literal
  | folded
deriving DecidableEq, Repr

inductive Token.Kind where
  | streamEnd
  | version (major minor : Nat)
  | tagStem (handle : String) (stem : List UInt8)
  | documentStart
  | documentEnd
  | sequenceStart
  | mappingStart
  | blockEnd
  | bracketOpen
  | bracketClose
  | braceOpen
  | braceClose
  | comma
  | dash
  | key
  | value
  | alias (name : String)
  | anchor (name : String)
  | tag (handle : String) (suffix : List UInt8)
  | scalar (style : Style) (text : String)
deriving DecidableEq, Repr

/-- A piece of a text. -/
structure Token where
  kind : Token.Kind
  start : Position
  finish : Position
deriving DecidableEq, Repr

/-! ## Names of nodes -/

/-- The name of a node behind its mark, and the place behind the name. -/
def readName (activity : Activity) (place : Place) : Except Fault (String × Place) :=
  let start := place.position
  let name := (place.rest.drop 1).takeWhile isNameChar
  let after := place.advance (name.length + 1)
  if name.isEmpty ||
      !(isWordEnd after.rest || after.rest.head?.any ['?', ':', ',', ']', '\x7d', '%', '@', '\x60'].contains)
  then .error ⟨.noName, after.position, some (activity, start)⟩
  else .ok (String.ofList name, after)

/-! ## Tags -/

/-- Where a tag is read, which decides about its errors and its characters. -/
inductive TagPlace where
  | node
  /-- Between angle brackets. -/
  | verbatim
  | directive
deriving DecidableEq, Repr

/-- A character of a tag behind its handle. -/
def isTagChar (tagPlace : TagPlace) (c : Char) : Bool :=
  isNameChar c || ";/?:@&=+$.%!~*'()".toList.contains c ||
    (tagPlace != .node && [',', '[', ']'].contains c)

def tagActivity : TagPlace → Activity
  | .directive => .handleText
  | _ => .tagText

/-- The length of a character, by its first byte. -/
def lengthByFirst? (byte : UInt8) : Option Nat :=
  if byte < 0x80 then some 1
  else if 0xc0 ≤ byte ∧ byte < 0xe0 then some 2
  else if 0xe0 ≤ byte ∧ byte < 0xf0 then some 3
  else if 0xf0 ≤ byte ∧ byte < 0xf8 then some 4
  else none

/-- The byte that two digits behind a percent sign write. -/
def escapedByte? : List Char → Option UInt8
  | '%' :: a :: b :: _ => do
    let high ← Json.hexValue? a
    let low ← Json.hexValue? b
    return (high * 16 + low).toUInt8
  | _ => none

/-- The bytes of one character after another percent sign, and the place behind them. -/
def readBytes (tagPlace : TagPlace) (start : Position) (first : Bool) :
    Nat → Place → Except Fault (List UInt8 × Place)
  | 0, place => .ok ([], place)
  | count + 1, place =>
    let fail (problem : Problem) : Except Fault (List UInt8 × Place) :=
      .error ⟨problem, place.position, some (tagActivity tagPlace, start)⟩
    match escapedByte? place.rest with
    | none => fail .noOctet
    | some byte =>
      if !first && (byte < 0x80 || 0xc0 ≤ byte) then fail .badTrailingOctet
      else do
        let (bytes, place) ← readBytes tagPlace start false count (place.advance 3)
        return (byte :: bytes, place)

/-- The bytes of a character that are written with percent signs, and the place behind them. -/
def readTagEscape (tagPlace : TagPlace) (start : Position) (place : Place) :
    Except Fault (List UInt8 × Place) :=
  let fail (problem : Problem) : Except Fault (List UInt8 × Place) :=
    .error ⟨problem, place.position, some (tagActivity tagPlace, start)⟩
  match escapedByte? place.rest with
  | none => fail .noOctet
  | some first =>
    match lengthByFirst? first with
    | none => fail .badLeadingOctet
    | some length => readBytes tagPlace start true length place

/-- The bytes of characters that each have one. -/
def bytesOf (cs : List Char) : List UInt8 :=
  cs.map Char.toUInt8

/-- The bytes of a tag, and the place behind them. -/
def readTagBytes (fuel : Nat) (tagPlace : TagPlace) (start : Position) (place : Place) :
    Except Fault (List UInt8 × Place) :=
  match fuel, place.rest with
  | fuel + 1, c :: _ =>
    if !isTagChar tagPlace c then .ok ([], place)
    else do
      let (bytes, next) ←
        if c = '%' then readTagEscape tagPlace start place
        else .ok (bytesOf [c], place.advance 1)
      let (more, place) ← readTagBytes fuel tagPlace start next
      return (bytes ++ more, place)
  | _, _ => .ok ([], place)

/--
A tag behind its handle, with what the handle leaves to it. Something must be written,
but only what is before the first byte that is zero counts.
-/
def readTagText (tagPlace : TagPlace) (head : List Char) (start : Position) (place : Place) :
    Except Fault (List UInt8 × Place) := do
  let (bytes, after) ← readTagBytes (place.rest.length + 1) tagPlace start place
  if bytes.isEmpty && head.isEmpty then
    throw ⟨.noTag, after.position, some (tagActivity tagPlace, start)⟩
  return ((bytesOf (head.drop 1) ++ bytes).takeWhile (· ≠ 0), after)

/-- The handle at the start of a tag: an exclamation mark, or a name between two of them. -/
def readHandle (directive : Bool) (start : Position) (place : Place) :
    Except Fault (List Char × Place) :=
  if !place.isAt '!' then
    .error ⟨.noTagMark, place.position, some (if directive then .handleStart else .tag, start)⟩
  else
    let name := (place.rest.drop 1).takeWhile isNameChar
    let after := place.advance (name.length + 1)
    if after.isAt '!' then .ok ('!' :: name ++ ['!'], after.advance 1)
    else if directive && !name.isEmpty then
      .error ⟨.noTagMark, after.position, some (.handleEnd, start)⟩
    else .ok ('!' :: name, after)

/-- A tag as its handle and its suffix, and the place behind it. -/
def readTag (flow : Bool) (place : Place) : Except Fault (String × List UInt8 × Place) := do
  let start := place.position
  let (handle, suffix, after) ←
    if place.rest.take 2 == ['!', '<'] then do
      let (suffix, after) ← readTagText .verbatim [] start (place.advance 2)
      if !after.isAt '>' then throw ⟨.noTagEnd, after.position, some (.tag, start)⟩
      pure ([], suffix, after.advance 1)
    else do
      let (handle, after) ← readHandle false start place
      if handle.length > 1 && handle.getLast? == some '!' then
        let (suffix, after) ← readTagText .node [] start after
        pure (handle, suffix, after)
      else
        let (suffix, after) ← readTagText .node handle start after
        pure (if suffix.isEmpty then ([], bytesOf ['!'], after) else (['!'], suffix, after))
  if isWordEnd after.rest || (flow && after.isAt ',') then
    return (String.ofList handle, suffix, after)
  else throw ⟨.noBlankOrBreak, after.position, some (.tag, start)⟩

/-! ## Directives -/

/-- A number of a version, and the place behind it. -/
def readVersionNumber (start : Position) (place : Place) : Except Fault (Nat × Place) :=
  let digits := place.rest.takeWhile Number.isDigit
  if digits.isEmpty then .error ⟨.noVersionNumber, place.position, some (.version, start)⟩
  else if digits.length > 9 then
    .error ⟨.longVersionNumber, (place.advance 9).position, some (.version, start)⟩
  else .ok (Number.valueOf digits, place.advance digits.length)

/-- What a directive of a given name says, and the place behind that. -/
def readDirectiveBody (name : String) (start : Position) (place : Place) :
    Except Fault (Token.Kind × Place) := do
  let body := place.skipWhile isBlank
  match name with
  | "YAML" =>
    let (major, dot) ← readVersionNumber start body
    if !dot.isAt '.' then throw ⟨.noVersionDot, dot.position, some (.version, start)⟩
    let (minor, after) ← readVersionNumber start (dot.advance 1)
    return (.version major minor, after)
  | "TAG" =>
    let (handle, after) ← readHandle true start body
    if !after.rest.head?.any isBlank then
      throw ⟨.noBlank, after.position, some (.handle, start)⟩
    let (stem, after) ← readTagText .directive [] start (after.skipWhile isBlank)
    if !isWordEnd after.rest then
      throw ⟨.noBlankOrBreak, after.position, some (.handle, start)⟩
    return (.tagStem (String.ofList handle) stem, after)
  | _ => throw ⟨.unknownDirective, place.position, some (.directive, start)⟩

/-- A directive, and the place behind its line. -/
def readDirective (place : Place) : Except Fault (Token × Place) := do
  let start := place.position
  let name := (place.rest.drop 1).takeWhile isNameChar
  let named := place.advance (name.length + 1)
  if name.isEmpty then throw ⟨.noDirectiveName, named.position, some (.directive, start)⟩
  if !isWordEnd named.rest then
    throw ⟨.strangeDirectiveName, named.position, some (.directive, start)⟩
  let (kind, after) ← readDirectiveBody (String.ofList name) start named
  return (⟨kind, start, after.position⟩, ← endLine .directive start after)

end MovieCatalogue.Yaml

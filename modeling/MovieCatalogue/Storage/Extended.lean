import MovieCatalogue.Calendar.Date
import MovieCatalogue.Json.Reader
import MovieCatalogue.Number.Literal
import MovieCatalogue.Storage.Value

/-!
Contract: documents that stand for something else.

Owns: `Value.ofMembers`, the value of a document. A document of one member, the
name of which starts with a dollar sign, may be another way to write a number, or
the way to write a value of a foreign sort; so may one with a code and its scope.
Also the grammars of the texts in such documents.
Does not own: which values are written in a row; see `Storage.Json`.
-/

namespace MovieCatalogue.Storage

open MovieCatalogue.Number

/-! ## Texts -/

namespace Foreign

/-- Whether a text consists of so many hexadecimal digits. -/
def isHex (count : Nat) (cs : List Char) : Bool :=
  cs.length == count && cs.all fun c => (Json.hexValue? c).isSome

/-- The number of two hexadecimal digits. -/
def readByte? : List Char → Option Nat
  | [a, b] => do return (← Json.hexValue? a) * 16 + (← Json.hexValue? b)
  | _ => none

/-- Whether a text is 32 hexadecimal digits in five groups. -/
def isGrouped (cs : List Char) : Bool :=
  let groups := Text.splitOn '-' cs
  groups.map List.length == [8, 4, 4, 4, 12] && groups.all fun group => isHex group.length group

/-- Whether a text is a universal identifier in one of its four forms. -/
def isIdentifier (cs : List Char) : Bool :=
  isHex 32 cs || isGrouped cs || (Text.stripStart? "urn:uuid:".toList cs).any isGrouped ||
    ((Text.stripStart? ['\x7b'] cs).bind (Text.stripEnd? ['\x7d'])).any isGrouped

/-- The place of a character in the alphabet of base 64. -/
def sextet? (c : Char) : Option Nat :=
  if 'A' ≤ c ∧ c ≤ 'Z' then some (c.toNat - 65)
  else if 'a' ≤ c ∧ c ≤ 'z' then some (c.toNat - 71)
  else if isDigit c then some (c.toNat + 4)
  else if c = '+' then some 62
  else if c = '/' then some 63
  else none

/--
The number of bytes that a text in base 64 stands for. It is written in groups of
four characters, the last of which may be filled with equals signs; the bits in
whose place these stand are zero.
-/
def bytesIn? : List Char → Option Nat
  | [] => some 0
  | [a, b, '=', '='] => do
    let _ ← sextet? a
    if (← sextet? b) % 16 = 0 then some 1 else none
  | [a, b, c, '='] => do
    let _ ← sextet? a
    let _ ← sextet? b
    if (← sextet? c) % 4 = 0 then some 2 else none
  | a :: b :: c :: d :: rest =>
    if [a, b, c, d].all fun each => (sextet? each).isSome then (bytesIn? rest).map (· + 3) else none
  | _ => none

/-- Whether digits with a power of ten are a number of at most 34 digits with a power of ten from
-6176 to 6111. Zeros at the end of the digits may be moved to the power and back. -/
def fitsDecimal (ds : List Char) (power : Int) : Bool :=
  let significant := ds.dropWhile (· == '0')
  let zeros := (significant.reverse.takeWhile (· == '0')).length
  let surplus : Int := max (significant.length - 34) (-6176 - power)
  significant.isEmpty || (surplus ≤ zeros && significant.length + power ≤ 34 + 6111)

def fitsInt16 (n : Int) : Bool :=
  -(2 ^ 15) ≤ n && n < 2 ^ 15

/-- Whether a text is a decimal number of 128 bits: a sign, then a word, or digits with at most
one point and an exponent. -/
def isDecimal (cs : List Char) : Bool :=
  let size := (match cs with
    | '+' :: rest | '-' :: rest => rest
    | _ => cs).map Char.toLower
  let (mantissa, exponent) := (Text.cutAt? ['e'] size).getD (size, ['0'])
  let (whole, fraction) := (Text.cutAt? ['.'] mantissa).getD (mantissa, [])
  let ds := whole ++ fraction
  ["nan", "snan", "inf", "infinity"].contains (String.ofList size) ||
    !ds.isEmpty && ds.all isDigit && (readSigned? exponent).any fun power =>
      fitsInt16 power && fitsInt16 (power - fraction.length) &&
        fitsDecimal ds (power - fraction.length)

/-! ## Moments -/

/-- A number of exactly `width` digits from `least` to `most`, and what follows it. -/
def readPart? (width least most : Nat) (cs : List Char) : Option (Nat × List Char) :=
  let ds := cs.take width
  if ds.length = width ∧ ds.all isDigit ∧ least ≤ valueOf ds ∧ valueOf ds ≤ most then
    some (valueOf ds, cs.drop width)
  else none

/-- A day and what follows it, if there is such a day. -/
def readDay? (cs : List Char) : Option (Calendar.Date × List Char) := do
  let (year, rest) ← readPart? 4 0 9999 cs
  let rest ← Text.stripStart? ['-'] rest
  let (month, rest) ← readPart? 2 1 12 rest
  let rest ← Text.stripStart? ['-'] rest
  let (day, rest) ← readPart? 2 1 31 rest
  return (← Calendar.Date.of? year month day, rest)

/-- Passes the one byte between a day and a time, whatever it is. -/
def passByte? : List Char → Option (List Char)
  | [] => none
  | c :: rest => if c.utf8Size = 1 then some rest else none

/-- Passes the fraction of a second. -/
def passFraction? : List Char → Option (List Char)
  | '.' :: rest =>
    if (rest.head?.map isDigit).getD false then some (rest.dropWhile isDigit) else none
  | cs => some cs

/-- The minutes that a clock is ahead of universal time: a letter, or a sign, hours and minutes. -/
def readAhead? : List Char → Option Int
  | ['Z'] | ['z'] => some 0
  | sign :: rest => do
    let (hours, rest) ← readPart? 2 0 23 rest
    let rest ← Text.stripStart? [':'] rest
    let (minutes, rest) ← readPart? 2 0 59 rest
    let size : Int := hours * 60 + minutes
    match sign, rest with
    | '+', [] => some size
    | '-', [] => some (-size)
    | _, _ => none
  | [] => none

/-- Whether a minute that a clock shows is the last one of a month in universal time. -/
def endsMonth (date : Calendar.Date) (minute ahead : Int) : Bool :=
  let universal := minute - ahead
  let day := date.day + universal / 1440
  universal % 1440 == 1439 && (day == 0 || day == Calendar.daysInMonth date.year date.month)

/-- Whether a text is a moment: a day, any one byte, a time and how far its clock is ahead. The
second that follows the last one of a minute is there at the end of a month only. -/
def isMoment (cs : List Char) : Bool :=
  Option.isSome do
    let (date, rest) ← readDay? cs
    let (hour, rest) ← readPart? 2 0 23 (← passByte? rest)
    let rest ← Text.stripStart? [':'] rest
    let (minute, rest) ← readPart? 2 0 59 rest
    let rest ← Text.stripStart? [':'] rest
    let (second, rest) ← readPart? 2 0 60 rest
    let ahead ← readAhead? (← passFraction? rest)
    if second < 60 || endsMonth date (hour * 60 + minute) ahead then some () else none

/-! ## Sorts -/

/-- A sort for which something speaks. -/
def when (holds : Bool) (sort : Foreign) : Option Foreign :=
  if holds then some sort else none

def ofText (read : String → Option Foreign) : Value → Option Foreign
  | .text s => read s
  | _ => none

def ofParts (read : Fields Value → Option Foreign) : Value → Option Foreign
  | .document parts => read parts
  | _ => none

/-- The sort of bytes, which are written in base 64 or are bytes already. -/
def ofBytes? (parts : Fields Value) : Option Foreign :=
  match parts.get? "base64", parts.get? "bytes", parts.get? "subType" with
  | some (.text digits), _, some (.text subtype) => do
    return .binary (← readByte? subtype.toList) (← bytesIn? digits.toList)
  | some (.text _), _, _ => none
  | _, some (.foreign (.binary 0 size) _), some (.int32 subtype) =>
    when (0 ≤ subtype.toInt && subtype.toInt < 256) (.binary subtype.toInt.toNat size)
  | _, _, _ => none

def isWord32 (n : Int64) : Bool :=
  0 ≤ n.toInt && n.toInt < 2 ^ 32

def isTimestamp (parts : Fields Value) : Bool :=
  match parts.get? "t", parts.get? "i" with
  | some (.int32 _), some (.int32 _) => true
  | some (.int64 time), some (.int64 place) => isWord32 time && isWord32 place
  | _, _ => false

def isPattern (parts : Fields Value) : Bool :=
  match parts.get? "pattern", parts.get? "options" with
  | some (.text _), some (.text _) => true
  | _, _ => false

def isPointer (parts : Fields Value) : Bool :=
  match parts.get? "$ref", parts.get? "$id" with
  | some (.text _), some (.foreign .objectId _) => true
  | _, _ => false

/-- Milliseconds, or a text. -/
def ofDate? : Value → Option Foreign
  | .int64 _ => some .moment
  | .text s => when (isMoment s.toList) .moment
  | _ => none

/-- Whether a value is the whole number one. -/
def isOne : Value → Bool
  | .int32 n => n == 1
  | .int64 n => n == 1
  | _ => false

/-- The sorts of the values under the names that go with foreign sorts. -/
def readers : Fields (Value → Option Foreign) :=
  [("$oid", ofText fun digits => when (isHex 24 digits.toList) .objectId),
   ("$symbol", ofText fun _ => some .symbol),
   ("$numberDecimal", ofText fun digits => when (isDecimal digits.toList) .decimal),
   ("$numberDecimalBytes", fun
      | .foreign (.binary 0 16) _ => some .decimal
      | _ => none),
   ("$binary", ofParts ofBytes?),
   ("$uuid", ofText fun digits => when (isIdentifier digits.toList) (.binary 4 16)),
   ("$code", ofText fun _ => some .code),
   ("$timestamp", ofParts fun parts => when (isTimestamp parts) .timestamp),
   ("$regularExpression", ofParts fun parts => when (isPattern parts) .pattern),
   ("$dbPointer", ofParts fun parts => when (isPointer parts) .pointer),
   ("$date", ofDate?),
   ("$minKey", fun value => when (isOne value) .least),
   ("$maxKey", fun value => when (isOne value) .greatest),
   ("$undefined", fun
      | .bool true => some .undefined
      | _ => none)]

end Foreign

/-! ## Documents -/

namespace Value

/-- A signed 32-bit word from its decimal text. -/
def readInt32? (s : String) : Option Int32 :=
  (readSigned? s.toList).bind fun n =>
    if -(2 ^ 31) ≤ n ∧ n < 2 ^ 31 then some (Int32.ofInt n) else none

/-- The numbers that texts under a name stand for. -/
def numberReaders : Fields (String → Option Value) :=
  [("$numberInt", fun digits => (readInt32? digits).map .int32),
   ("$numberLong", fun digits => (readInt64? digits).map .int64),
   ("$numberDouble", fun digits => (readDecimal? digits).map .real)]

/-- What a document with one member stands for. -/
def ofMember? (name : String) (value : Value) : Option Value :=
  match numberReaders.get? name, value with
  | some read, .text digits => read digits
  | _, _ =>
    (Foreign.readers.get? name).bind fun read =>
      (read value).map fun sort => .foreign sort [(name, value)]

/-- Whether a document with two members is a code with its scope. -/
def isScopedCode (members : Fields Value) : Bool :=
  match members.get? "$code", members.get? "$scope" with
  | some (.text _), some (.document _) => true
  | _, _ => false

/--
The value of a document. Its parts are values already: a document among them stands
for nothing else.
-/
def ofMembers (members : Fields Value) : Value :=
  match members with
  | [(name, value)] => (ofMember? name value).getD (.document members)
  | [_, _] => if isScopedCode members then .foreign .scopedCode members else .document members
  | _ => .document members

end Value

end MovieCatalogue.Storage

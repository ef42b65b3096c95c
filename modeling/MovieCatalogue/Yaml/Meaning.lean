import MovieCatalogue.Json.Reader
import MovieCatalogue.Number.Integer
import MovieCatalogue.Number.Literal
import MovieCatalogue.Record.Datum
import MovieCatalogue.Yaml.Value

/-!
Contract: what YAML scalars stand for.

Owns: `Meaning`, and the meaning of a scalar by its text, its style and its tag. A
plain scalar may stand for nothing, a truth value or a number; every other scalar
is a text, unless its tag says otherwise. An integer has at most 128 bits; a longer
one is a floating-point number.
Does not own: where which meaning may stand; see `Yaml.Spot`.
-/

namespace MovieCatalogue.Yaml

open MovieCatalogue.Json (hexValue?)
open MovieCatalogue.Number

/-- What a scalar stands for. -/
inductive Meaning where
  | nothing
  | bool (b : Bool)
  /-- An integer, which may be written with a minus sign also if it is zero. -/
  | integer (n : Int) (signed : Bool)
  | real (x : Binary64)
  | text (s : String)
deriving DecidableEq, Repr

/-! ## Words and numbers -/

/-- The words for nothing. -/
def isNull (text : String) : Bool :=
  ["~", "null", "Null", "NULL"].contains text

def readBool? : String → Option Bool
  | "true" | "True" | "TRUE" => some true
  | "false" | "False" | "FALSE" => some false
  | _ => none

/-- The number that one or more digits below a base write. -/
def basedValue? (base : Nat) (digits : List Char) : Option Nat :=
  if digits.isEmpty then none
  else digits.foldlM
    (fun acc c => ((hexValue? c).filter (· < base)).map fun d => acc * base + d) 0

/-- A natural number, which has no superfluous zeros unless a mark tells its base. -/
def readNatural? : List Char → Option Nat
  | '0' :: 'x' :: digits => basedValue? 16 digits
  | '0' :: 'o' :: digits => basedValue? 8 digits
  | '0' :: 'b' :: digits => basedValue? 2 digits
  | digits =>
    if digits.length > 1 && digits.head? == some '0' then none else basedValue? 10 digits

/-- An integer of at most 128 bits. -/
def readInteger? : List Char → Option Meaning
  | '-' :: cs =>
    ((readNatural? cs).filter (· ≤ 2 ^ 127)).map fun n => .integer (-(n : Int)) true
  | '+' :: cs => ((readNatural? cs).filter (· < 2 ^ 128)).map fun n => .integer n false
  | cs => ((readNatural? cs).filter (· < 2 ^ 128)).map fun n => .integer n false

/-- A text without the sign at its start. -/
def unsigned : List Char → List Char
  | '+' :: cs | '-' :: cs => cs
  | cs => cs

/-- Whether a text is a number of digits behind a superfluous zero. -/
def isPaddedNumber (cs : List Char) : Bool :=
  let digits := unsigned cs
  digits.length > 1 && digits.head? == some '0' && digits.all isDigit

def readReal? (text : String) : Option Binary64 :=
  match text with
  | ".inf" | ".Inf" | ".INF" | "+.inf" | "+.Inf" | "+.INF" => readDecimal? "inf"
  | "-.inf" | "-.Inf" | "-.INF" => readDecimal? "-inf"
  | ".nan" | ".NaN" | ".NAN" => readDecimal? "nan"
  | _ => if text.toList.any isDigit then (readDecimal? text).filter Binary64.isFinite else none

/-! ## Meanings -/

namespace Meaning

/-- What a plain scalar without a tag stands for. -/
def ofPlain (text : String) : Meaning :=
  if text.isEmpty || isNull text then .nothing
  else
    match readBool? text, readInteger? text.toList, readReal? text with
    | some b, _, _ => .bool b
    | none, some whole, _ => whole
    | none, none, some x => if isPaddedNumber text.toList then .text text else .real x
    | none, none, none => .text text

/-- What a scalar with a tag stands for, or what it should be by its tag and is not. -/
def ofTagged (tag : Tag) (style : Style) (text : String) : Except String Meaning :=
  let asTagged (value : Option Meaning) (expected : String) : Except String Meaning :=
    match value with
    | some meaning => .ok meaning
    | none => .error expected
  if tag = Tag.core "bool" then asTagged ((readBool? text).map .bool) "a boolean"
  else if tag = Tag.core "int" then asTagged (readInteger? text.toList) "an integer"
  else if tag = Tag.core "float" then asTagged ((readReal? text).map .real) "a float"
  else if tag = Tag.core "null" then asTagged (if isNull text then some .nothing else none) "null"
  else if tag.isMarked && style = .plain then .ok (ofPlain text)
  else .ok (.text text)

/-- What a scalar stands for, or what it should be by its tag and is not. -/
def ofScalar (tag : Option Tag) (style : Style) (text : String) : Except String Meaning :=
  match tag with
  | none => .ok (if style = .plain then ofPlain text else .text text)
  | some tag => ofTagged tag style text

/-- Whether an integer does not fit a word, and which kind of double word it is then. -/
def wideName? (n : Int) (signed : Bool) : Option String :=
  if signed then if n < minInt64 then some "i128" else none
  else if (maxWord : Int) < n then some "u128"
  else none

def describe : Meaning → String
  | .nothing => Record.Datum.describe .stored .absent
  | .bool b => Record.Datum.describe .stored (.bool b)
  | .integer n signed =>
    let width := ((wideName? n signed).map fun name => " as " ++ name).getD ""
    Record.Datum.describe .stored (.integer n) ++ width
  | .real x => Record.Datum.describe .stored (.real x)
  | .text s => Record.Datum.describe .stored (.text s)

end Meaning

end MovieCatalogue.Yaml

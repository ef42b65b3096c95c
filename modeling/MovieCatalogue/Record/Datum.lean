import MovieCatalogue.Calendar.Reading
import MovieCatalogue.Number.Notation
import MovieCatalogue.Storage.Value
import MovieCatalogue.Text.Quoted

/-!
Contract: what a decoder finds, and why it refuses it.

Owns: `Datum`, the part of a JSON value or of a stored value that decides
whether it decodes, and the errors of decoding with their texts. Payloads and
stored rows name an absent value and a floating-point number differently, so the
texts take a `Wording`.
Does not own: what each field accepts; see `Record.Field`.
-/

namespace MovieCatalogue.Record

open MovieCatalogue.Number

/-- What stands where a value is decoded. -/
inductive Datum where
  | absent
  | bool (b : Bool)
  | integer (n : Int)
  | real (x : Binary64)
  | text (s : String)
  | sequence
  | map
deriving DecidableEq, Repr

def Datum.ofJson : Json → Datum
  | .null => .absent
  | .bool b => .bool b
  | .int n => .integer n
  | .real x => .real x
  | .string s => .text s
  | .array _ => .sequence
  | .object _ => .map

def Datum.ofValue : Storage.Value → Datum
  | .null => .absent
  | .bool b => .bool b
  | .int32 n => .integer n.toInt
  | .int64 n => .integer n.toInt
  | .real x => .real x
  | .text s => .text s
  | .array _ => .sequence
  | .document _ | .foreign _ _ => .map

/-- How a source of data names what it holds. -/
structure Wording where
  absent : String
  real : Binary64 → String

def Wording.payload : Wording := ⟨"null", Layout.json.text⟩

def Wording.stored : Wording := ⟨"unit value", Layout.positionalWithFraction.text⟩

def Datum.describe (wording : Wording) : Datum → String
  | .absent => wording.absent
  | .bool b => "boolean `" ++ (if b then "true" else "false") ++ "`"
  | .integer n => "integer `" ++ intText n ++ "`"
  | .real x => "floating point `" ++ wording.real x ++ "`"
  | .text s => "string " ++ Text.quoted s
  | .sequence => "sequence"
  | .map => "map"

/-- Why something does not decode. -/
inductive DecodeError where
  | wrongType (found : Datum) (expected : String)
  | wrongValue (found : Datum) (expected : String)
  | badDate (error : Calendar.DateError)
  | missingField (name : String)
  | wrongLength (length : Nat) (expected : String)
  | unknownField (name : String) (expected : List String)
  | repeatedField (name : String)
  | unknownVariant (name : String) (expected : List String)
deriving DecidableEq, Repr

/-- Names of which one was expected. -/
def oneOf (names : List String) : String :=
  let quoted := names.map fun name => "`" ++ name ++ "`"
  match quoted with
  | [] => "there are no fields"
  | [only] => "expected " ++ only
  | [first, second] => "expected " ++ first ++ " or " ++ second
  | _ => "expected one of " ++ Text.join ", " quoted

def DecodeError.message (wording : Wording) : DecodeError → String
  | .wrongType found expected =>
    "invalid type: " ++ found.describe wording ++ ", expected " ++ expected
  | .wrongValue found expected =>
    "invalid value: " ++ found.describe wording ++ ", expected " ++ expected
  | .badDate error => error.message
  | .missingField name => "missing field `" ++ name ++ "`"
  | .wrongLength length expected =>
    "invalid length " ++ natText length ++ ", expected " ++ expected
  | .unknownField name expected => "unknown field `" ++ name ++ "`, " ++ oneOf expected
  | .repeatedField name => "duplicate field `" ++ name ++ "`"
  | .unknownVariant name expected => "unknown variant `" ++ name ++ "`, " ++ oneOf expected

end MovieCatalogue.Record

import MovieCatalogue.Record.Datum
import MovieCatalogue.Storage.Column
import MovieCatalogue.Storage.Json

/-!
Contract: the fields of records.

Owns: the type of contents that each kind of field has, and for each kind the
three codecs of one content: to the stored value, to JSON and from a datum. A
field says which kind it has, whether its content may be absent, and what it
holds when a payload leaves it out.
Does not own: records as a whole; see `Record.Entity`.
-/

namespace MovieCatalogue.Record

open MovieCatalogue.Number MovieCatalogue.Storage

/-- The contents of a kind. -/
abbrev Carrier : Kind → Type
  | .integer => Int64
  | .real => Binary64
  | .text => String
  | .boolean => Bool
  | .date => Calendar.Date

def Carrier.toValue : (kind : Kind) → Carrier kind → Value
  | .integer, n => .int64 n
  | .real, x => .real x
  | .text, s => .text s
  | .boolean, b => .bool b
  | .date, d => .text d.text

/-- The JSON form of a content. A floating-point number that is not finite has none. -/
def Carrier.toJson : (kind : Kind) → Carrier kind → Json
  | .integer, n => .int n.toInt
  | .real, x => if x.isFinite then .real x else .null
  | .text, s => .string s
  | .boolean, b => .bool b
  | .date, d => .string d.text

/-- The content of a datum. Whole numbers are also contents of real fields. -/
def Carrier.decode : (kind : Kind) → Datum → Except DecodeError (Carrier kind)
  | .integer, .integer n =>
    if fitsInt64 n then .ok (Int64.ofInt n) else .error (.wrongValue (.integer n) "i64")
  | .integer, found => .error (.wrongType found "i64")
  | .real, .integer n => .ok (Binary64.ofInt n)
  | .real, .real x => .ok x
  | .real, found => .error (.wrongType found "f64")
  | .text, .text s => .ok s
  | .text, found => .error (.wrongType found "a string")
  | .boolean, .bool b => .ok b
  | .boolean, found => .error (.wrongType found "a boolean")
  | .date, .text s => (Calendar.readDate .lenient s.toList).mapError .badDate
  | .date, found => .error (.wrongType found "a formatted date string")

/-- The contents of a field: those of its kind, or none where that is allowed. -/
abbrev Content (kind : Kind) : Bool → Type
  | true => Option (Carrier kind)
  | false => Carrier kind

namespace Content

def toValue (kind : Kind) : (nullable : Bool) → Content kind nullable → Value
  | true, some content => Carrier.toValue kind content
  | true, none => .null
  | false, content => Carrier.toValue kind content

def toJson (kind : Kind) : (nullable : Bool) → Content kind nullable → Json
  | true, some content => Carrier.toJson kind content
  | true, none => .null
  | false, content => Carrier.toJson kind content

def decode (kind : Kind) : (nullable : Bool) → Datum → Except DecodeError (Content kind nullable)
  | true, .absent => .ok none
  | true, datum => (Carrier.decode kind datum).map some
  | false, datum => Carrier.decode kind datum

end Content

/-- A field of a record. -/
structure Field where
  name : String
  kind : Kind
  nullable : Bool
  /-- What the field holds when it is left out, given the time in seconds. -/
  fallback : Int64 → Option (Content kind nullable)

namespace Field

/-- A field that must be given. -/
def required (name : String) (kind : Kind) : Field :=
  ⟨name, kind, false, fun _ => none⟩

/-- A field whose content may be absent, and is when the field is left out. -/
def optional (name : String) (kind : Kind) : Field :=
  ⟨name, kind, true, fun _ => some none⟩

/-- A field with a content of its own when it is left out. -/
def withDefault (name : String) (kind : Kind) (content : Carrier kind) : Field :=
  ⟨name, kind, false, fun _ => some content⟩

/-- A field that holds the time when it is left out. -/
def stamped (name : String) : Field :=
  ⟨name, .integer, false, fun now => some now⟩

def column (field : Field) : Column :=
  ⟨field.name, field.kind, field.nullable⟩

abbrev Contents (field : Field) : Type :=
  Content field.kind field.nullable

def decode (field : Field) (datum : Datum) : Except DecodeError field.Contents :=
  Content.decode field.kind field.nullable datum

end Field

end MovieCatalogue.Record

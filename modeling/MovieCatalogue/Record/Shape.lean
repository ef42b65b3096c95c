import MovieCatalogue.Number.Integer
import MovieCatalogue.Record.Datum

/-!
Contract: structures with named parts as JSON.

Owns: decoders of single JSON values, and the reading of a structure from an
object of its parts or from an array of them in order. The parts of an object
are decoded in the order of its members, so the first bad one is reported; only
then one that is missing. An array must not be longer than the structure.
Does not own: the records of the catalogue; see `Record.Entity`.
-/

namespace MovieCatalogue.Record

open MovieCatalogue.Number

/-- A decoder of one JSON value. -/
abbrev Decoder (α : Type) := Json → Except DecodeError α

namespace Decoder

def refuse {α : Type} (expected : String) (json : Json) : Except DecodeError α :=
  .error (.wrongType (.ofJson json) expected)

/-- A signed 64-bit word. -/
def int64 : Decoder Int64
  | .int n => if fitsInt64 n then .ok (Int64.ofInt n) else .error (.wrongValue (.integer n) "i64")
  | json => refuse "i64" json

/-- An unsigned 64-bit word under its name in messages. -/
def wordCalled (name : String) : Decoder Nat
  | .int n =>
    match wordOfInt? n with
    | some w => .ok w
    | none => .error (.wrongValue (.integer n) name)
  | json => refuse name json

/-- An unsigned 64-bit word. -/
def word : Decoder Nat :=
  wordCalled "u64"

/-- An unsigned 64-bit word that counts things. -/
def size : Decoder Nat :=
  wordCalled "usize"

def bool : Decoder Bool
  | .bool b => .ok b
  | json => refuse "a boolean" json

def text : Decoder String
  | .string s => .ok s
  | json => refuse "a string" json

def path : Decoder String
  | .string s => .ok s
  | json => refuse "path string" json

/-- A value that may be absent. -/
def optional {α : Type} (decoder : Decoder α) : Decoder (Option α)
  | .null => .ok none
  | json => (decoder json).map some

def list {α : Type} (decoder : Decoder α) : Decoder (List α)
  | .array items => items.mapM decoder
  | json => refuse "a sequence" json

end Decoder

/-- The names of the parts of a structure, with what each part must pass. -/
abbrev Shape := List (String × (Json → Except DecodeError Unit))

/-- What a part must pass to be decoded later on. -/
def part {α : Type} (name : String) (decoder : Decoder α) :
    String × (Json → Except DecodeError Unit) :=
  (name, fun json => (decoder json).map fun _ => ())

namespace Shape

/-- Whether the members pass, in their own order; members that are no part do not matter. -/
def checkMembers (shape : Shape) : Fields Json → Except DecodeError Unit
  | [] => .ok ()
  | (name, json) :: members => do
    match shape.find? fun entry => entry.1 == name with
    | some entry => entry.2 json
    | none => .ok ()
    checkMembers shape members

/-- Whether the members pass, in their own order, and all of them are parts. -/
def checkOnly (shape : Shape) : Fields Json → Except DecodeError Unit
  | [] => .ok ()
  | (name, json) :: members => do
    match shape.find? fun entry => entry.1 == name with
    | some entry => entry.2 json
    | none => .error (.unknownField name (shape.map Prod.fst))
    checkOnly shape members

/-- The items of an array under the names of the parts. -/
def nameItems (shape : Shape) (items : List Json) : Fields Json :=
  (shape.map Prod.fst).zip items

/-- The parts that a JSON value gives, after a check of its members. -/
def membersBy (check : Fields Json → Except DecodeError Unit) (shape : Shape)
    (structureName : String) (json : Json) : Except DecodeError (Fields Json) :=
  match json with
  | .object members => do
    check members
    return members
  | .array items => do
    let named := nameItems shape items
    checkMembers shape named
    if items.length > shape.length then
      .error (.wrongLength items.length "fewer elements in array")
    else return named
  | other => .error (.wrongType (.ofJson other) ("struct " ++ structureName))

/-- The parts that a JSON value gives; other members of an object do not matter. -/
def members (shape : Shape) (structureName : String) (json : Json) :
    Except DecodeError (Fields Json) :=
  membersBy (checkMembers shape) shape structureName json

/-- The parts that a JSON value gives; an object must have no other members. -/
def onlyMembers (shape : Shape) (structureName : String) (json : Json) :
    Except DecodeError (Fields Json) :=
  membersBy (checkOnly shape) shape structureName json

/-- A part that must be there. -/
def required {α : Type} (members : Fields Json) (name : String) (decoder : Decoder α) :
    Except DecodeError α :=
  match Fields.get? name members with
  | some json => decoder json
  | none => .error (.missingField name)

/-- A part with a value of its own when it is left out. -/
def withDefault {α : Type} (members : Fields Json) (name : String) (decoder : Decoder α)
    (fallback : α) : Except DecodeError α :=
  match Fields.get? name members with
  | some json => decoder json
  | none => .ok fallback

end Shape

end MovieCatalogue.Record

import MovieCatalogue.Record.Field
import MovieCatalogue.RequestError

/-!
Contract: records and the entities that they belong to.

Owns: `Contents`, one content for each field of a list, with its row, its JSON
object and its decoder; and `Entity`, the description from which the table, the
identifiers and the messages of one sort of record follow. The decoder visits
the members in their own order and reports the first that does not decode; only
then a field that is missing, in the order of the fields.
Does not own: the entities themselves; see `Record.Catalogue`.
-/

namespace MovieCatalogue.Record

open MovieCatalogue.Storage

@[reducible] def Contents : List Field → Type
  | [] => Unit
  | field :: fields => field.Contents × Contents fields

namespace Contents

def toRow : (fields : List Field) → Contents fields → Row
  | [], _ => []
  | field :: fields, record =>
    (field.name, Content.toValue field.kind field.nullable record.1) :: toRow fields record.2

def toMembers : (fields : List Field) → Contents fields → Fields Json
  | [], _ => []
  | field :: fields, record =>
    (field.name, Content.toJson field.kind field.nullable record.1) :: toMembers fields record.2

def toJson (fields : List Field) (record : Contents fields) : Json :=
  .object (toMembers fields record)

/-- Whether a member decodes in the field of its name; other members do not matter. -/
def checkMember (fields : List Field) (name : String) (datum : Datum) : Except DecodeError Unit :=
  match fields.find? fun field => field.name == name with
  | some field => (field.decode datum).map fun _ => ()
  | none => .ok ()

/-- Whether all members decode, in their own order. -/
def checkMembers (fields : List Field) : Fields Datum → Except DecodeError Unit
  | [] => .ok ()
  | (name, datum) :: members => do
    checkMember fields name datum
    checkMembers fields members

def build (now : Int64) (members : Fields Datum) :
    (fields : List Field) → Except DecodeError (Contents fields)
  | [] => .ok ()
  | field :: fields => do
    let content ←
      match Fields.get? field.name members with
      | some datum => field.decode datum
      | none =>
        match field.fallback now with
        | some content => .ok content
        | none => .error (.missingField field.name)
    return (content, ← build now members fields)

def decode (fields : List Field) (now : Int64) (members : Fields Datum) :
    Except DecodeError (Contents fields) := do
  checkMembers fields members
  build now members fields

def ofMembers (fields : List Field) (now : Int64) (members : Fields Json) :
    Except DecodeError (Contents fields) :=
  decode fields now (members.map fun member => (member.1, Datum.ofJson member.2))

def ofRow (fields : List Field) (now : Int64) (row : Row) : Except DecodeError (Contents fields) :=
  decode fields now (row.map fun cell => (cell.1, Datum.ofValue cell.2))

end Contents

/-- A sort of record that is stored in a table of its own. -/
structure Entity where
  /-- The name in messages. -/
  name : String
  table : String
  /-- The key fields in the order of an identifier. -/
  key : List String
  fields : List Field
  /-- Unique constraints besides the key. -/
  unique : List (List String) := []

namespace Entity

abbrev Records (entity : Entity) : Type :=
  Contents entity.fields

def spec (entity : Entity) : Spec :=
  ⟨entity.table, entity.fields.map Field.column, entity.key, entity.unique⟩

/-- The key fields joined as in an identifier. -/
def idSpec (entity : Entity) : String :=
  Text.join "_" entity.key

def hasField (entity : Entity) (name : String) : Bool :=
  entity.fields.any fun field => field.name == name

/-- Refuses a name that is no field of the entity. -/
def checkField (entity : Entity) (name : String) : Except RequestError Unit :=
  if entity.hasField name then .ok () else .error (.unknownField entity.name name)

def toRow (entity : Entity) (record : entity.Records) : Row :=
  Contents.toRow entity.fields record

def toJson (entity : Entity) (record : entity.Records) : Json :=
  Contents.toJson entity.fields record

/-- The record of a stored row; one that does not decode is a fault of the store. -/
def ofRow (entity : Entity) (now : Int64) (row : Row) : Except RequestError entity.Records :=
  match Contents.ofRow entity.fields now row with
  | .ok record => .ok record
  | .error error => .error (.internal (.decode (error.message .stored)))

def ofPayload (entity : Entity) (now : Int64) (members : Fields Json) :
    Except RequestError entity.Records :=
  match Contents.ofMembers entity.fields now members with
  | .ok record => .ok record
  | .error error =>
    .error (.invalid ("invalid " ++ entity.name ++ " payload: " ++ error.message .payload))

end Entity

end MovieCatalogue.Record

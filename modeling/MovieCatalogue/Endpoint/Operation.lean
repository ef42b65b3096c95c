import MovieCatalogue.Calendar.Moment
import MovieCatalogue.Endpoint.Listing
import MovieCatalogue.Endpoint.Session
import MovieCatalogue.Record.Identifier
import MovieCatalogue.Storage.Json
import MovieCatalogue.Token.Resolution

/-!
Contract: the five operations on the records of any entity.

Owns: list, create, read, update and delete. A writing operation has two atomic
steps. The first decides from the payload and the stored rows what to write
(`planCreate`, `planUpdate`, `planDelete`); the second commits that one change
(`perform`). Between the steps the store may change, so each step takes the
store that it sees.
Does not own: paths and bodies of requests; see `Endpoint.Dispatch`.
-/

namespace MovieCatalogue.Endpoint

open MovieCatalogue.Journal MovieCatalogue.Record MovieCatalogue.Selection MovieCatalogue.Storage

/-- The readings of the clock that one request takes. -/
structure Clock where
  /-- Seconds, for fields that hold the time when they are left out. -/
  now : Int64
  /-- Seconds with a fraction, when the request arrived. -/
  started : Number.Binary64
  /-- Seconds with a fraction, when it was answered. -/
  ended : Number.Binary64
  /-- Duration of a query in milliseconds. -/
  elapsed : Nat
deriving DecidableEq

/-- The readings of a clock that stands still at a moment. -/
def Clock.standing (moment : Calendar.Moment) (elapsed : Nat) : Clock where
  now := Int64.ofInt moment.seconds
  started := .ofRatio false moment.millis 1000
  ended := .ofRatio false moment.millis 1000
  elapsed := elapsed

/-- What an operation leaves behind: its answer, the store, and what happened. -/
structure Outcome (α : Type) where
  answer : Except RequestError α
  store : Store
  events : List Event

namespace Outcome

variable {α β : Type}

/-- A refusal that changed nothing. -/
def refused (store : Store) (error : RequestError) : Outcome α :=
  ⟨.error error, store, []⟩

def andThen (outcome : Outcome α) (f : α → Except RequestError β) : Outcome β :=
  ⟨outcome.answer.bind f, outcome.store, outcome.events⟩

end Outcome

/-- The members of a payload, all of which name fields of the entity. -/
def payloadMembers (entity : Entity) (body : Json) : Except RequestError (Fields Json) :=
  match body with
  | .object members => do
    members.forM fun member => entity.checkField member.1
    return members
  | _ => .error (.invalid (entity.name ++ " payload must be a JSON object"))

def identifierQuery (entity : Entity) (id : String) : Except RequestError Query := do
  let identifier ← Identifier.parse entity.key id
  return ⟨entity.table, identifier.predicates, []⟩

def findRow (entity : Entity) (store : Store) (id : String) : Except RequestError Row := do
  let query ← identifierQuery entity id
  match ← internally (store.fetch query 0 (some 1)) with
  | row :: _ => return row
  | [] => .error (.notFound entity.name)

/-- A change to a table and the event that tells that it was made. -/
structure Work where
  change : Change
  done : Event

def planCreate (entity : Entity) (clock : Clock) (body : Json) : Except RequestError Work := do
  let members ← payloadMembers entity body
  let record ← entity.ofPayload clock.now members
  return ⟨.insert (entity.toRow record), .created entity.name entity.idSpec⟩

/-- What updating a record writes: its stored contents under those of the payload. -/
def planUpdate (entity : Entity) (store : Store) (clock : Clock) (id : String) (body : Json) :
    Except RequestError Work := do
  let changes ← payloadMembers entity body
  let row ← findRow entity store id
  let current ← entity.ofRow clock.now row
  let merged := Fields.merge (Contents.toMembers entity.fields current) changes
  let record ← entity.ofPayload clock.now merged
  return ⟨.replace (Key.of entity.spec row) (entity.toRow record), .updated entity.name id⟩

def planDelete (entity : Entity) (store : Store) (id : String) : Except RequestError Work := do
  let row ← findRow entity store id
  return ⟨.delete (Key.of entity.spec row), .deleted entity.name id⟩

/-- Commits one planned change. -/
def perform (entity : Entity) (store : Store) (work : Work) : Outcome (List Row) :=
  match (Session.mk entity.table [work.change]).commit store with
  | .ok (after, written, events) => ⟨.ok written, after, events ++ [work.done]⟩
  | .error error => .refused store (.ofStore entity.name error)

def writtenRecord (entity : Entity) (clock : Clock) (written : List Row) :
    Except RequestError entity.Records :=
  match written.getLast? with
  | some row => entity.ofRow clock.now row
  | none => .error (.internal (.decode "commit returned no row"))

def carryOut (entity : Entity) (store : Store) (plan : Except RequestError Work) :
    Outcome (List Row) :=
  match plan with
  | .ok work => perform entity store work
  | .error error => .refused store error

def list (entity : Entity) (store : Store) (limits : PageLimits) (clock : Clock)
    (params : ListParams) : Outcome (Page entity.Records) :=
  match params.resolve limits with
  | .error error => .refused store error
  | .ok (page, limit) =>
    match Token.buildQuery entity params.filter params.sort with
    | .error error => .refused store error
    | .ok query =>
      match paginate store query page limit with
      | .error error => ⟨.error error, store, [.queryBuilt query]⟩
      | .ok rows =>
        ⟨rows.tryMap (entity.ofRow clock.now), store,
          [.queryBuilt query, pagedEvent query page limit clock.elapsed rows]⟩

def create (entity : Entity) (store : Store) (clock : Clock) (body : Json) :
    Outcome entity.Records :=
  (carryOut entity store (planCreate entity clock body)).andThen (writtenRecord entity clock)

def read (entity : Entity) (store : Store) (clock : Clock) (id : String) :
    Except RequestError entity.Records := do
  let row ← findRow entity store id
  entity.ofRow clock.now row

def update (entity : Entity) (store : Store) (clock : Clock) (id : String) (body : Json) :
    Outcome entity.Records :=
  (carryOut entity store (planUpdate entity store clock id body)).andThen
    (writtenRecord entity clock)

def delete (entity : Entity) (store : Store) (id : String) : Outcome Unit :=
  (carryOut entity store (planDelete entity store id)).andThen fun _ => .ok ()

end MovieCatalogue.Endpoint

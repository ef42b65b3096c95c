import MovieCatalogue.Endpoint.Documentation

/-!
Contract: answering requests.

Owns: the meaning of paths. A route names an entity; without an identifier it
lists and creates, with one it reads, updates and deletes. `GET /operators`
describes the filter operators, and `GET /sections/{id}/movies` lists movies
through the stored tokens of a section. Every answer can be recorded as a record
of the request log; that never changes the answer.
Does not own: the operations; see `Endpoint.Operation`.
-/

namespace MovieCatalogue.Endpoint

open MovieCatalogue.Journal MovieCatalogue.Record MovieCatalogue.Selection MovieCatalogue.Storage

structure Service where
  registry : Registry := .standard
  limits : PageLimits := {}
  /-- Whether every request is recorded. -/
  recording : Bool := false

/-- The operations that a request may ask for. -/
inductive Action where
  | operators
  | browse (id : String)
  | list (entity : Entity)
  | create (entity : Entity)
  | read (entity : Entity) (id : String)
  | update (entity : Entity) (id : String)
  | delete (entity : Entity) (id : String)

/-- The operation on all records of an entity that a method asks for. -/
def Action.onAll (entity : Entity) : Method → Option Action
  | .get => some (.list entity)
  | .post => some (.create entity)
  | .put | .delete => none

/-- The operation on one record of an entity that a method asks for. -/
def Action.onOne (entity : Entity) (id : String) : Method → Option Action
  | .get => some (.read entity id)
  | .put => some (.update entity id)
  | .delete => some (.delete entity id)
  | .post => none

/-- The operation that a method and the segments of a path ask for. -/
def Action.of? (registry : Registry) (method : Method) (path : List String) : Option Action :=
  match method, path with
  | .get, ["operators"] => some .operators
  | .get, ["sections", id, "movies"] => some (.browse (decodeSegment id))
  | _, [route] => (registry.entity? route).bind fun entity => onAll entity method
  | _, [route, id] =>
    (registry.entity? route).bind fun entity => onOne entity (decodeSegment id) method
  | _, _ => none

/-- The tokens that a section stores, separated by semicolons. -/
def storedTokens (tokens : Option String) : List String :=
  match tokens with
  | none => []
  | some text =>
    (((Text.splitOn ';' text.toList).map Text.trimBlanks).filter fun token =>
      !token.isEmpty).map String.ofList

/--
The parameters under which a section lists movies: its filters before those of
the request, and its sorts unless the request has some.
-/
def browseParams (record : movieSection.Records) (params : ListParams) : ListParams :=
  { params with
    filter := storedTokens (sectionFilter record) ++ params.filter
    sort := if params.sort.isEmpty then storedTokens (sectionSort record) else params.sort }

def browse (store : Store) (limits : PageLimits) (clock : Clock) (id : String)
    (query : List (String × String)) : Outcome (Page movie.Records) :=
  match read movieSection store clock id with
  | .error error => .refused store error
  | .ok record =>
    match ListParams.ofPairs query with
    | .error error => .refused store error
    | .ok params => list movie store limits clock (browseParams record params)

def pageJson (entity : Entity) (page : Page entity.Records) : Except RequestError Json :=
  .ok (page.toJson entity.toJson)

def recordJson (entity : Entity) (record : entity.Records) : Except RequestError Json :=
  .ok (entity.toJson record)

def Action.run (action : Action) (service : Service) (store : Store) (clock : Clock)
    (request : Request) : Outcome Json :=
  match action with
  | .operators => ⟨.ok operatorsJson, store, []⟩
  | .browse id =>
    (Endpoint.browse store service.limits clock id request.query).andThen (pageJson movie)
  | .list entity =>
    match ListParams.ofPairs request.query with
    | .error error => .refused store error
    | .ok params =>
      (Endpoint.list entity store service.limits clock params).andThen (pageJson entity)
  | .create entity =>
    (Endpoint.create entity store clock request.payload).andThen (recordJson entity)
  | .read entity id => ⟨(Endpoint.read entity store clock id).bind (recordJson entity), store, []⟩
  | .update entity id =>
    (Endpoint.update entity store clock id request.payload).andThen (recordJson entity)
  | .delete entity id =>
    (Endpoint.delete entity store id).andThen fun _ => .ok (.object [("result", .string "OK")])

/-- A response with the store after it and what happened. -/
structure Reply where
  response : Response
  store : Store
  events : List Event

def refusalEvent (call : Call) : RequestError → Event
  | .internal error => .failed call error
  | error => .rejected call error

/-- The answer to a request, before it is recorded. -/
def answer (service : Service) (store : Store) (clock : Clock) (request : Request) : Reply :=
  let call := request.call
  let reply : Reply :=
    match Action.of? service.registry request.method (segments request.path) with
    | none => ⟨.routeNotFound, store, []⟩
    | some action =>
      let outcome := action.run service store clock request
      match outcome.answer with
      | .ok body => ⟨.ok body, outcome.store, outcome.events⟩
      | .error error =>
        ⟨.ofError error, outcome.store, outcome.events ++ [refusalEvent call error]⟩
  { reply with events := reply.events ++ [.answered call reply.response.status] }

/-- The record of an answered request, without its number. -/
def logEntry (clock : Clock) (request : Request) (response : Response) : Row :=
  let record : requestLog.Records :=
    ((0 : Int64), request.path, request.method.name, some (Number.natText response.status), clock.started,
      some clock.ended, request.token.isSome, ())
  (requestLog.toRow record).erase "id"

/-- Records an answered request under the next number. -/
def record (clock : Clock) (request : Request) (reply : Reply) : Reply :=
  let session : Session :=
    ⟨requestLog.table, [.insertNextKey (logEntry clock request reply.response)]⟩
  match session.commit reply.store with
  | .ok (after, _, events) => ⟨reply.response, after, reply.events ++ events⟩
  | .error error => { reply with events := reply.events ++ [.recordFailed error] }

def dispatch (service : Service) (store : Store) (clock : Clock) (request : Request) : Reply :=
  let reply := answer service store clock request
  if service.recording then record clock request reply else reply

end MovieCatalogue.Endpoint

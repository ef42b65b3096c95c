import MovieCatalogue.Proofs.Endpoint.Creating
import MovieCatalogue.Proofs.Endpoint.ListBounds
import MovieCatalogue.Proofs.Lists

/-!
Contract: the errors of the five endpoints of a route.

Owns: `refusal?`, the error that a request ends in; the kinds of errors that requests to each endpoint
end in, which are exactly those of `Operation.errorKinds`; and which of them the documentation
of the endpoint leaves out.
Does not own: the texts of errors, and which requests end in which of them; see `Creating`,
`Updating` and `Addressing`.
-/

namespace MovieCatalogue.Endpoint

open MovieCatalogue.Record MovieCatalogue.Refusal MovieCatalogue.Selection MovieCatalogue.Storage
  MovieCatalogue.Token

/-! ## Endpoints -/

/-- The operations that the endpoints of a route carry out. -/
inductive Operation where
  | list
  | create
  | read
  | update
  | delete
deriving DecidableEq, Repr

namespace Operation

def all : List Operation :=
  [.list, .create, .read, .update, .delete]

theorem mem_all (operation : Operation) : operation ∈ all := by
  cases operation <;> decide

def method : Operation → Method
  | .list | .read => .get
  | .create => .post
  | .update => .put
  | .delete => .delete

/-- The number of segments in the path of the endpoint. -/
def depth : Operation → Nat
  | .list | .create => 1
  | .read | .update | .delete => 2

/-- The path under which the endpoint is documented. -/
def documentedPath (operation : Operation) (route : String) (entity : Entity) : String :=
  if operation.depth = 1 then "/" ++ route else "/" ++ route ++ "/\x7b" ++ entity.idSpec ++ "\x7d"

/-- A request to the endpoint of a route. -/
structure Asked (operation : Operation) (route : String) (request : Request) : Prop where
  method : request.method = operation.method
  route : (segments request.path).head? = some route
  depth : (segments request.path).length = operation.depth

/-- What is asked for with a segment behind the route; without one only lists and creations are. -/
def action (entity : Entity) (segment : String) : Operation → Action
  | .list => .list entity
  | .create => .create entity
  | .read => .read entity (decodeSegment segment)
  | .update => .update entity (decodeSegment segment)
  | .delete => .delete entity (decodeSegment segment)

/-- The kinds of errors that the endpoint documents. -/
def documented : Operation → List RequestError.Kind
  | .list => [.invalidParameter]
  | .create => [.resourceAlreadyExists, .unknownField]
  | .read | .delete => [.resourceNotFound]
  | .update => [.resourceNotFound, .unknownField]

/-- The kinds that it does not document, though requests end in errors of them. -/
def undocumented (entity : Entity) : Operation → List RequestError.Kind
  | .list => []
  | .create => [.invalidParameter]
  | .read | .delete => if entity.key.length = 1 then [] else [.invalidParameter]
  | .update => [.resourceAlreadyExists, .invalidParameter]

/-- The kinds of errors that requests to the endpoint end in. -/
def errorKinds (entity : Entity) (operation : Operation) : List RequestError.Kind :=
  operation.documented ++ operation.undocumented entity

end Operation

/-- The kinds of errors that are documented for a method and a path. -/
def documentedKinds (registry : Registry) (method : Method) (path : String) :
    List RequestError.Kind :=
  ((endpointDocs registry).filter fun doc => doc.method = method && doc.path = path).flatMap
    fun doc => doc.errors.map ErrorDoc.kind

/-! ## Errors -/

/-- The error that a request ends in, if it asks for an operation and this does not succeed. -/
def refusal? (service : Service) (store : Store) (clock : Clock) (request : Request) :
    Option RequestError :=
  match Action.of? service.registry request.method (segments request.path) with
  | none => none
  | some action =>
    match (action.run service store clock request).answer with
    | .ok _ => none
    | .error error => some error

variable {service : Service} {store : Store} {clock : Clock} {request : Request} {action : Action}
  {entity : Entity} {error : RequestError} {route : String} {operation : Operation}

theorem refusal?_eq_some (asked : Action.of? service.registry request.method
      (segments request.path) = some action) :
    refusal? service store clock request = some error ↔
      (action.run service store clock request).answer = .error error := by
  rw [refusal?, asked]
  dsimp only
  cases (action.run service store clock request).answer with
  | ok body => simp
  | error other => simp

/-- A request that ends in an error is answered with it. -/
theorem response_of_refusal? (refused : refusal? service store clock request = some error) :
    (dispatch service store clock request).response = .ofError error := by
  cases asked : Action.of? service.registry request.method (segments request.path) with
  | none =>
      rw [refusal?, asked] at refused
      cases refused
  | some action =>
      rw [response_dispatch, answer_of_asked asked, Outcome.reply,
        (refusal?_eq_some asked).mp refused]

/-- A request to an endpoint asks for its operation. -/
theorem Operation.Asked.exists_action (asked : operation.Asked route request)
    (served : Registry.standard.entity? route = some entity) :
    ∃ segment, Action.of? .standard request.method (segments request.path) =
      some (operation.action entity segment) := by
  obtain ⟨method, first, depth⟩ := asked
  rw [method]
  generalize segments request.path = path at first depth
  match path, first with
  | [_], rfl =>
      refine ⟨"", ?_⟩
      rw [Action.of?_route served]
      cases operation <;> first | rfl | cases depth
  | [_, segment], rfl =>
      refine ⟨segment, ?_⟩
      rw [Action.of?_route_segment served]
      cases operation <;> first | rfl | cases depth
  | _ :: _ :: _ :: _, _ => cases operation <;> cases depth

/-! ## Kinds -/

theorem paginate_eq_error {query : Query} {page limit : Nat}
    (refused : paginate store query page limit = .error error) :
    (∃ message, error = .invalid message) ∨ ∃ fault, error = .internal fault := by
  by_cases zero : limit = 0
  · cases zero
    cases refused
    exact .inl ⟨_, rfl⟩
  simp only [paginate, if_neg zero] at refused
  rcases bind_eq_error.mp refused with notCounted | ⟨total, -, afterCount⟩
  · obtain ⟨fault, -, rfl⟩ := mapError_eq_error.mp notCounted
    exact .inr ⟨fault, rfl⟩
  split at afterCount
  case isTrue =>
      cases afterCount
      exact .inl ⟨_, rfl⟩
  case isFalse =>
      rcases bind_eq_error.mp afterCount with notFetched | ⟨items, -, impossible⟩
      · obtain ⟨fault, -, rfl⟩ := mapError_eq_error.mp notFetched
        exact .inr ⟨fault, rfl⟩
      · cases impossible

section

variable (holds : HoldsCatalogue store) (member : entity ∈ catalogue)
include holds member

theorem kind_of_list_error {limits : PageLimits} {params : ListParams}
    (refused : (list entity store limits clock params).answer = .error error) :
    error.kind = .invalidParameter := by
  have client := neverInternal_list holds member limits clock params error refused
  unfold list at refused
  split at refused
  case h_1 notResolved =>
      cases refused
      rcases ListParams.resolve_eq_error notResolved with rfl | rfl <;> rfl
  case h_2 page limit _ =>
      split at refused
      case h_1 notBuilt =>
          cases refused
          cases buildQuery_eq_error.mp notBuilt <;> rfl
      case h_2 query _ =>
          split at refused
          case h_1 notPaged =>
              cases refused
              rcases paginate_eq_error notPaged with ⟨message, rfl⟩ | ⟨fault, rfl⟩
              · rfl
              · exact absurd rfl client
          case h_2 rows _ =>
              obtain ⟨row, -, notDecoded⟩ := exists_of_mapM_eq_error (map_eq_error.mp refused)
              obtain ⟨fault, rfl⟩ := ofRow_eq_error notDecoded
              exact absurd rfl client

theorem kind_of_create_error {body : Json}
    (refused : (create entity store clock body).answer = .error error) :
    error.kind ∈ Operation.create.errorKinds entity := by
  obtain ⟨table, found, -⟩ := holds.find? member
  cases (create_eq_error holds member found).mp refused with
  | collision => exact .head _
  | unknownField => exact .tail _ (.head _)
  | notObject | payload => exact .tail _ (.tail _ (.head _))

theorem kind_of_update_error {id : String} {body : Json}
    (refused : (update entity store clock id body).answer = .error error) :
    error.kind ∈ Operation.update.errorKinds entity := by
  obtain ⟨table, found, -⟩ := holds.find? member
  cases (update_eq_error holds member found).mp refused with
  | notFound => exact .head _
  | unknownField => exact .tail _ (.head _)
  | collision => exact .tail _ (.tail _ (.head _))
  | notObject | identifier | payload => exact .tail _ (.tail _ (.tail _ (.head _)))

/-- A look-up gives a row of the table, or is refused for the lack of one or for its identifier. -/
theorem findRow_cases {table : Table} (found : store.find? entity.table = some table)
    (id : String) :
    (∃ row ∈ table.rows, findRow entity store id = .ok row.cells) ∨
      ∃ error, findRow entity store id = .error error ∧
        error.kind ∈ Operation.read.errorKinds entity := by
  cases parsed : Identifier.parse entity.key id with
  | ok identifier =>
      rw [findRow_of_parse holds member found parsed]
      cases hit : table.rows.find? fun row =>
        satisfies entity.spec identifier.predicates row.cells with
      | some row => exact .inl ⟨row, List.mem_of_find?_eq_some hit, rfl⟩
      | none => exact .inr ⟨_, rfl, .head _⟩
  | error error =>
      have severalFields : entity.key.length ≠ 1 := by
        intro single
        obtain ⟨field, only⟩ := List.length_eq_one_iff.mp single
        rw [only] at parsed
        cases parsed
      have refused : findRow entity store id = .error error :=
        bind_eq_error.mpr (.inl (bind_eq_error.mpr (.inl parsed)))
      obtain ⟨rfl, -⟩ := Identifier.parse_eq_error.mp parsed
      have undocumented : Operation.read.undocumented entity = [.invalidParameter] :=
        if_neg severalFields
      refine .inr ⟨_, refused, .tail _ ?_⟩
      rw [undocumented]
      exact .head _

theorem kind_of_read_error {id : String} (refused : read entity store clock id = .error error) :
    error.kind ∈ Operation.read.errorKinds entity := by
  obtain ⟨table, found, -⟩ := holds.find? member
  rcases findRow_cases holds member found id with ⟨row, inTable, looked⟩ | ⟨other, looked, kind⟩
  · obtain ⟨record, decoded⟩ :=
      exists_ofRow member (holds.rowHolds member found inTable) clock.now
    rw [read, looked] at refused
    cases decoded.symm.trans refused
  · rw [read, looked] at refused
    cases refused
    exact kind

theorem kind_of_delete_error {id : String} (refused : (delete entity store id).answer = .error error) :
    error.kind ∈ Operation.delete.errorKinds entity := by
  obtain ⟨table, found, -⟩ := holds.find? member
  rcases findRow_cases holds member found id with ⟨row, inTable, looked⟩ | ⟨other, looked, kind⟩
  · obtain ⟨before, others, rows⟩ := List.append_of_mem inTable
    have planned : planDelete entity store id =
        .ok ⟨.delete (Key.of entity.spec row.cells), .deleted entity.name id⟩ := by
      rw [planDelete, looked]
      rfl
    rw [delete, planned, carryOut, perform_delete holds member found rows rfl] at refused
    cases refused
  · have notPlanned : planDelete entity store id = .error other := by
      rw [planDelete, looked]
      rfl
    rw [delete, notPlanned] at refused
    cases refused
    exact kind

/-- An operation on an entity ends in errors of its kinds only. -/
theorem kind_of_run_error {segment : String}
    (refused : ((operation.action entity segment).run service store clock request).answer =
      .error error) : error.kind ∈ operation.errorKinds entity := by
  cases operation with
  | list =>
      simp only [Operation.action, Action.run] at refused
      split at refused
      case h_1 notRead =>
          cases refused
          obtain ⟨name, -, rfl⟩ := ListParams.ofPairs_eq_error notRead
          exact .head _
      case h_2 =>
          rcases bind_eq_error.mp refused with notListed | ⟨_, -, impossible⟩
          · rw [kind_of_list_error holds member notListed]
            exact .head _
          · cases impossible
  | create =>
      rcases bind_eq_error.mp refused with notCreated | ⟨_, -, impossible⟩
      · exact kind_of_create_error holds member notCreated
      · cases impossible
  | read =>
      rcases bind_eq_error.mp refused with notRead | ⟨_, -, impossible⟩
      · exact kind_of_read_error holds member notRead
      · cases impossible
  | update =>
      rcases bind_eq_error.mp refused with notUpdated | ⟨_, -, impossible⟩
      · exact kind_of_update_error holds member notUpdated
      · cases impossible
  | delete =>
      rcases bind_eq_error.mp refused with notDeleted | ⟨_, -, impossible⟩
      · exact kind_of_delete_error holds member notDeleted
      · cases impossible

end

/-! ## Documentation -/

theorem Operation.not_mem_documented {kind : RequestError.Kind}
    (mem : kind ∈ operation.undocumented entity) : kind ∉ operation.documented := by
  have identifiers (mem : kind ∈ if entity.key.length = 1 then [] else [.invalidParameter]) :
      kind ∉ [RequestError.Kind.resourceNotFound] := by
    split at mem
    · cases mem
    · cases List.mem_singleton.mp mem
      decide
  cases operation with
  | list => cases mem
  | create =>
      cases List.mem_singleton.mp mem
      decide
  | read | delete => exact identifiers mem
  | update =>
      rcases List.mem_pair.mp mem with rfl | rfl
      · decide
      · decide

theorem mem_kinds_errorDocs {name : String} {kinds : List RequestError.Kind}
    {kind : RequestError.Kind} :
    kind ∈ (errorDocs name kinds).map ErrorDoc.kind ↔ kind ∈ kinds := by
  have documentedKind : (ErrorDoc.kind ∘ fun kind : RequestError.Kind =>
      (⟨kind.status, kind, kind.description name⟩ : ErrorDoc)) = id := rfl
  rw [errorDocs, List.map_map, documentedKind, List.map_id, mem_eraseReps, List.mem_mergeSort]

/-- The endpoints of a route, with the errors that they document. -/
theorem map_routeDocs (route : String) (entity : Entity) :
    (routeDocs route entity).map (fun doc => (doc.method, doc.path, doc.errors)) =
      Operation.all.map fun operation => (operation.method,
        operation.documentedPath route entity, errorDocs entity.name operation.documented) :=
  rfl

/-- Each endpoint of the standard routes has a documentation of its own. -/
theorem documentedPath_inj {route other : String} {entity otherEntity : Entity}
    (served : Registry.standard.entity? route = some entity)
    (servedToo : (other, otherEntity) ∈ Registry.standard) {operation otherOperation : Operation}
    (sameMethod : otherOperation.method = operation.method)
    (samePath : otherOperation.documentedPath other otherEntity =
      operation.documentedPath route entity) : otherOperation = operation := by
  have each : ∀ first ∈ Registry.standard, ∀ second ∈ Registry.standard,
      ∀ operation ∈ Operation.all, ∀ other ∈ Operation.all, other.method = operation.method →
        other.documentedPath second.1 second.2 = operation.documentedPath first.1 first.2 →
          other = operation := by
    decide +kernel
  exact each _ (Fields.mem_of_get?_eq_some served) _ servedToo operation operation.mem_all
    otherOperation otherOperation.mem_all sameMethod samePath

/-- An endpoint is documented with its kinds of errors. -/
theorem mem_documentedKinds_iff (served : Registry.standard.entity? route = some entity)
    {kind : RequestError.Kind} :
    kind ∈ documentedKinds .standard operation.method (operation.documentedPath route entity) ↔
      kind ∈ operation.documented := by
  have ofRoute (route : String) (entity : Entity) (method : Method) (path : String)
      (errors : List ErrorDoc) :
      (∃ doc ∈ routeDocs route entity, doc.method = method ∧ doc.path = path ∧ doc.errors = errors) ↔
        ∃ operation ∈ Operation.all, operation.method = method ∧
          operation.documentedPath route entity = path ∧
          errorDocs entity.name operation.documented = errors := by
    have listed := congrArg (fun docs => (method, path, errors) ∈ docs) (map_routeDocs route entity)
    simpa only [List.mem_map, Prod.mk.injEq, eq_iff_iff] using listed
  simp only [documentedKinds, endpointDocs, List.mem_flatMap, List.mem_filter, Registry.routes,
    List.mem_mergeSort, Bool.and_eq_true, decide_eq_true_eq]
  constructor
  · rintro ⟨doc, ⟨⟨⟨other, otherEntity⟩, servedToo, inRoute⟩, sameMethod, samePath⟩, isDocumented⟩
    obtain ⟨otherOperation, -, hasMethod, hasPath, hasErrors⟩ :=
      (ofRoute other otherEntity _ _ _).mp ⟨doc, inRoute, sameMethod, samePath, rfl⟩
    cases documentedPath_inj served servedToo hasMethod hasPath
    rw [← hasErrors] at isDocumented
    exact mem_kinds_errorDocs.mp isDocumented
  · intro isDocumented
    obtain ⟨doc, inRoute, sameMethod, samePath, hasErrors⟩ :=
      (ofRoute route entity _ _ _).mpr ⟨operation, operation.mem_all, rfl, rfl, rfl⟩
    refine ⟨doc, ⟨⟨⟨route, entity⟩, Fields.mem_of_get?_eq_some served, inRoute⟩, sameMethod,
      samePath⟩, ?_⟩
    rw [hasErrors]
    exact mem_kinds_errorDocs.mpr isDocumented

/-! ## Requests that end in errors -/

/-- Some request to the endpoint of a route ends in an error of a kind. -/
def Operation.EndsIn (operation : Operation) (route : String) (kind : RequestError.Kind) : Prop :=
  ∃ store service clock request error, Reachable store ∧ service.registry = .standard ∧
    operation.Asked route request ∧ refusal? service store clock request = some error ∧
    error.kind = kind

/-- A value for a field of a kind; other digits give other values to the fields of keys. -/
def sampleJson (digit : Char) : Kind → Json
  | .integer | .real => .int (Number.digitValue digit)
  | .text => .string (String.singleton digit)
  | .boolean => .bool false
  | .date => .string "2024-01-01"

/-- A payload with such values in all fields that must not be absent. -/
def sampleBody (entity : Entity) (digit : Char) : Json :=
  .object (entity.fields.filterMap fun field =>
    if field.nullable then none else some (field.name, sampleJson digit field.kind))

/-- The path of the record of this payload. -/
def samplePath (route : String) (entity : Entity) (digit : Char) : String :=
  "/" ++ route ++ "/" ++ Text.join "_" (entity.key.map fun _ => String.singleton digit)

def sampleClock : Clock :=
  ⟨0, .zero, .zero, 0⟩

/-- The store after two records were created. -/
def stocked (route : String) (entity : Entity) : Store :=
  let create (digit : Char) : Request :=
    { method := .post, path := "/" ++ route, body := some (sampleBody entity digit) }
  let first := (dispatch {} emptyStore sampleClock (create '1')).store
  (dispatch {} first sampleClock (create '2')).store

theorem reachable_stocked (route : String) (entity : Entity) : Reachable (stocked route entity) :=
  .dispatched (.dispatched .empty rfl sampleClock _) rfl sampleClock _

/-- A request to this store that ends in an error of a kind. -/
def Operation.refused (route : String) (entity : Entity) :
    Operation → RequestError.Kind → Request
  | .list, _ => { method := .get, path := "/" ++ route, query := [("page", "0")] }
  | .create, .unknownField =>
    { method := .post, path := "/" ++ route, body := some (.object [("?", .null)]) }
  | .create, .resourceAlreadyExists =>
    { method := .post, path := "/" ++ route, body := some (sampleBody entity '1') }
  | .create, _ => { method := .post, path := "/" ++ route }
  | .update, .unknownField =>
    { method := .put, path := samplePath route entity '1', body := some (.object [("?", .null)]) }
  | .update, .resourceAlreadyExists =>
    { method := .put, path := samplePath route entity '2', body := some (sampleBody entity '1') }
  | .update, .resourceNotFound =>
    { method := .put, path := samplePath route entity '3', body := some (.object []) }
  | .update, _ => { method := .put, path := samplePath route entity '1' }
  -- With several key fields an identifier has underscores.
  | operation, .invalidParameter => { method := operation.method, path := "/" ++ route ++ "/1" }
  | operation, _ => { method := operation.method, path := samplePath route entity '3' }

section

variable (served : Registry.standard.entity? route = some entity)
include served

/-- Every kind of error of an endpoint occurs. -/
theorem endsIn_of_mem {kind : RequestError.Kind} (mem : kind ∈ operation.errorKinds entity) :
    operation.EndsIn route kind := by
  have each : ∀ served ∈ Registry.standard, ∀ operation ∈ Operation.all,
      ∀ kind ∈ operation.errorKinds served.2,
        let request := operation.refused served.1 served.2 kind
        request.method = operation.method ∧
          (segments request.path).head? = some served.1 ∧
          (segments request.path).length = operation.depth ∧
          (refusal? {} (stocked served.1 served.2) sampleClock request).map RequestError.kind =
            some kind := by
    decide +kernel
  obtain ⟨method, first, depth, refused⟩ :=
    each _ (Fields.mem_of_get?_eq_some served) operation operation.mem_all kind mem
  obtain ⟨error, isRefusal, isKind⟩ := Option.map_eq_some_iff.mp refused
  exact ⟨_, {}, sampleClock, _, error, reachable_stocked route entity, rfl, ⟨method, first, depth⟩,
    isRefusal, isKind⟩

/-- Requests to an endpoint end in errors of these kinds and no others. -/
theorem endsIn_iff {kind : RequestError.Kind} :
    operation.EndsIn route kind ↔ kind ∈ operation.errorKinds entity := by
  refine ⟨?_, endsIn_of_mem served⟩
  rintro ⟨store, service, clock, request, error, reachable, standard, asked, refused, rfl⟩
  obtain ⟨segment, asksFor⟩ := asked.exists_action served
  rw [← standard] at asksFor
  exact kind_of_run_error reachable.holdsCatalogue (mem_catalogue_of_entity? served)
    ((refusal?_eq_some asksFor).mp refused)

/-- All kinds of errors that an endpoint documents are met. Of those that requests to it end in, the
documentation leaves out exactly the undocumented ones: a list has none, and so has a record
with one key field that is read or deleted. -/
theorem documentation_misses (operation : Operation) :
    let documented :=
      documentedKinds .standard operation.method (operation.documentedPath route entity)
    (∀ kind, operation.EndsIn route kind ↔ kind ∈ operation.errorKinds entity) ∧
      (∀ kind ∈ documented, operation.EndsIn route kind) ∧
      ∀ kind, operation.EndsIn route kind ∧ kind ∉ documented ↔
        kind ∈ operation.undocumented entity := by
  intro documented
  have isDocumented {kind : RequestError.Kind} : kind ∈ documented ↔ kind ∈ operation.documented :=
    mem_documentedKinds_iff served
  refine ⟨fun kind => endsIn_iff served, fun kind mem => ?_, fun kind => ?_⟩
  · exact (endsIn_iff served).mpr (List.mem_append_left _ (isDocumented.mp mem))
  · rw [endsIn_iff served, isDocumented, Operation.errorKinds, List.mem_append]
    constructor
    · rintro ⟨mem | mem, missing⟩
      · exact absurd mem missing
      · exact mem
    · exact fun mem => ⟨.inr mem, Operation.not_mem_documented mem⟩

end

/-- The documentation of reading a rating knows no malformed identifiers. -/
theorem documentation_misses_rating :
    Registry.standard.entity? "ratings" = some rating ∧
      Operation.read.EndsIn "ratings" .invalidParameter ∧
      .invalidParameter ∉ documentedKinds .standard .get "/ratings/\x7buser_movie\x7d" := by
  have served : Registry.standard.entity? "ratings" = some rating := rfl
  exact ⟨served, ((documentation_misses served .read).2.2 .invalidParameter).mpr (by decide)⟩

/-- A rating whose identifier names no movie is refused in a way that is not documented. -/
theorem malformed_identifier_undocumented :
    let request : Request := { method := .get, path := "/ratings/1" }
    Reachable emptyStore ∧ Operation.read.Asked "ratings" request ∧
      (refusal? {} emptyStore sampleClock request).map RequestError.kind = some .invalidParameter ∧
      .invalidParameter ∉ documentedKinds .standard .get "/ratings/\x7buser_movie\x7d" := by
  intro request
  have served : Registry.standard.entity? "ratings" = some rating := rfl
  have asked : Operation.read.Asked "ratings" request :=
    ⟨rfl, by decide +kernel, by decide +kernel⟩
  refine ⟨.empty, asked, by decide +kernel, fun documented => ?_⟩
  have mem : .invalidParameter ∈ Operation.read.documented :=
    (mem_documentedKinds_iff served).mp documented
  revert mem
  decide

end MovieCatalogue.Endpoint

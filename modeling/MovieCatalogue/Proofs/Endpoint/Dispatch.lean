import MovieCatalogue.Proofs.Endpoint.Operation

/-!
Contract: what answering a request does.

Owns: `Reachable`, the stores that requests, commits and saved files lead to from the
empty catalogue; which commits an answer makes; that all reachable stores hold the
catalogue; that an answer other than a success, or to a reading request, leaves the store
as it was, and every other one changes one row; that no request is answered by a fault
of the store; and what a route with or without a segment behind it asks for.
Does not own: the single operations; see `Proofs.Endpoint.Operation`.
-/

namespace MovieCatalogue.Endpoint

open MovieCatalogue.Record MovieCatalogue.Refusal MovieCatalogue.Storage

/-! ## Reachable stores -/

/-- The stores that requests, commits and saved files lead to. -/
inductive Reachable : Store → Prop
  | empty : Reachable emptyStore
  | committed {store after : Store} {table : String} {changes : List Change} {written : List Row}
      (reachable : Reachable store) (commit : store.commit table changes = .ok (after, written)) :
      Reachable after
  | loaded {store : Store} (reachable : Reachable store) (file : FileState) :
      Reachable (Snapshot.load store file).1
  | dispatched {store : Store} (reachable : Reachable store) {service : Service}
      (standard : service.registry = .standard) (clock : Clock) (request : Request) :
      Reachable (dispatch service store clock request).store

/-! ## What is committed -/

theorem store_run_list (entity : Entity) (service : Service) (store : Store) (clock : Clock)
    (request : Request) : ((Action.list entity).run service store clock request).store = store := by
  rw [Action.run]
  split
  · rfl
  · exact store_list entity store service.limits clock _

/-- A plan that is carried out changes nothing, or by a commit of its change. -/
theorem store_carryOut_cases (entity : Entity) (store : Store) (plan : Except RequestError Work) :
    (carryOut entity store plan).store = store ∨
      ∃ work after written, plan = .ok work ∧
        store.commit entity.table [work.change] = .ok (after, written) ∧
        (carryOut entity store plan).store = after := by
  cases plan with
  | error error => exact .inl rfl
  | ok work =>
      unfold carryOut perform Session.commit
      dsimp only
      cases committed : store.commit entity.table [work.change] with
      | error error => exact .inl rfl
      | ok result => exact .inr ⟨work, result.1, result.2, rfl, committed, rfl⟩

/-- The store after an answer is the one after the operation that was asked for, if there is one. -/
theorem store_answer_cases (service : Service) (store : Store) (clock : Clock) (request : Request) :
    (answer service store clock request).store = store ∨
      ∃ action, Action.of? service.registry request.method (segments request.path) = some action ∧
        (answer service store clock request).store =
          (action.run service store clock request).store := by
  unfold answer
  dsimp only
  split
  case h_1 => exact .inl rfl
  case h_2 action asked =>
      refine .inr ⟨action, asked, ?_⟩
      split <;> rfl

/-- After an answer nothing changes, or by a commit of the record of the request. -/
theorem store_dispatch_cases (service : Service) (store : Store) (clock : Clock)
    (request : Request) :
    let reply := answer service store clock request
    (dispatch service store clock request).store = reply.store ∨
      ∃ after written, reply.store.commit requestLog.table
          [.insertNextKey (logEntry clock request reply.response)] = .ok (after, written) ∧
        (dispatch service store clock request).store = after := by
  intro reply
  unfold dispatch
  dsimp only
  split
  · unfold record Session.commit
    dsimp only
    cases committed : reply.store.commit requestLog.table
      [.insertNextKey (logEntry clock request reply.response)] with
    | error error => exact .inl rfl
    | ok result => exact .inr ⟨result.1, result.2, rfl, rfl⟩
  · exact .inl rfl

section Commits

variable {P : Store → Prop}
  (kept : ∀ {store after : Store} {name : String} {changes : List Change} {written : List Row},
    store.commit name changes = .ok (after, written) → P store → P after)
  {store : Store}

include kept

theorem carryOut_induction (entity : Entity) (plan : Except RequestError Work)
    (start : P store) : P (carryOut entity store plan).store := by
  rcases store_carryOut_cases entity store plan with same | ⟨_, _, _, -, committed, same⟩
  · rw [same]
    exact start
  · rw [same]
    exact kept committed start

private theorem run_induction (service : Service) (clock : Clock) (request : Request)
    (action : Action) (start : P store) : P (action.run service store clock request).store := by
  cases action with
  | operators => exact start
  | browse id => exact (store_browse store service.limits clock id request.query).symm ▸ start
  | list entity => exact (store_run_list entity service store clock request).symm ▸ start
  | create entity => exact carryOut_induction kept entity _ start
  | read entity id => exact start
  | update entity id => exact carryOut_induction kept entity _ start
  | delete entity id => exact carryOut_induction kept entity _ start

/-- What commits keep, answering a request keeps. -/
theorem dispatch_induction (service : Service) (clock : Clock) (request : Request)
    (start : P store) : P (dispatch service store clock request).store := by
  have answered : P (answer service store clock request).store := by
    rcases store_answer_cases service store clock request with same | ⟨action, -, same⟩
    · rw [same]
      exact start
    · rw [same]
      exact run_induction kept service clock request action start
  rcases store_dispatch_cases service store clock request with same | ⟨_, _, committed, same⟩
  · rw [same]
    exact answered
  · rw [same]
    exact kept committed answered

end Commits

theorem holdsCatalogue_dispatch {store : Store} (holds : HoldsCatalogue store) (service : Service)
    (clock : Clock) (request : Request) :
    HoldsCatalogue (dispatch service store clock request).store :=
  dispatch_induction (fun committed holds => holds.commit committed) service clock request holds

/-- Every reachable store holds the catalogue. -/
theorem Reachable.holdsCatalogue {store : Store} (reachable : Reachable store) :
    HoldsCatalogue store := by
  induction reachable with
  | empty => exact holdsCatalogue_emptyStore
  | committed _ commit inductionHypothesis => exact inductionHypothesis.commit commit
  | loaded _ file inductionHypothesis => exact inductionHypothesis.load file
  | dispatched _ _ clock request inductionHypothesis =>
      exact holdsCatalogue_dispatch inductionHypothesis _ clock request

/-! ## One request -/

theorem mem_catalogue_of_entity? {route : String} {entity : Entity}
    (served : Registry.standard.entity? route = some entity) : entity ∈ catalogue := by
  have inRegistry := Fields.mem_of_get?_eq_some served
  exact List.mem_map_of_mem (f := Prod.snd) inRegistry

/-- What a method and a path ask for: the operators, a section, or an operation on an entity whose
route is the first segment. -/
theorem Action.of?_cases {method : Method} {path : List String} {action : Action}
    (asked : Action.of? .standard method path = some action) :
    (method = .get ∧ action = .operators) ∨ (method = .get ∧ ∃ id, action = .browse id) ∨
      ∃ route entity, path.head? = some route ∧ Registry.standard.entity? route = some entity ∧
        (onAll entity method = some action ∨ ∃ id, onOne entity id method = some action) := by
  unfold Action.of? at asked
  split at asked
  case h_1 =>
      cases asked
      exact .inl ⟨rfl, rfl⟩
  case h_2 id =>
      cases asked
      exact .inr (.inl ⟨rfl, _, rfl⟩)
  case h_3 =>
      obtain ⟨entity, served, asked⟩ := Option.bind_eq_some_iff.mp asked
      exact .inr (.inr ⟨_, entity, rfl, served, .inl asked⟩)
  case h_4 =>
      obtain ⟨entity, served, asked⟩ := Option.bind_eq_some_iff.mp asked
      exact .inr (.inr ⟨_, entity, rfl, served, .inr ⟨_, asked⟩⟩)
  case h_5 => cases asked

/-- What a request does: it reads and changes nothing, or it writes to the entity of its path. -/
inductive Carried (store : Store) (request : Request) : Outcome Json → Prop
  | reading {outcome : Outcome Json} (method : request.method = .get)
      (unchanged : outcome.store = store) (answer : NeverInternal outcome.answer) :
      Carried store request outcome
  | writing {outcome : Outcome Json} {route : String} {entity : Entity}
      (method : request.method ≠ .get) (first : (segments request.path).head? = some route)
      (served : Registry.standard.entity? route = some entity)
      (settled : Settled store entity request.method outcome) : Carried store request outcome

/-- The operation on all records of an entity. -/
private theorem carried_onAll {store : Store} (holds : HoldsCatalogue store) (service : Service)
    (clock : Clock) {request : Request} {route : String} {entity : Entity} {action : Action}
    (first : (segments request.path).head? = some route)
    (served : Registry.standard.entity? route = some entity)
    (asked : Action.onAll entity request.method = some action) :
    Carried store request (action.run service store clock request) := by
  have member := mem_catalogue_of_entity? served
  cases method : request.method with
  | get =>
      rw [method] at asked
      cases asked
      rw [Action.run]
      have pairs := neverInternal_ofPairs request.query
      split
      case h_1 error refused =>
          exact .reading method rfl (neverInternal_error (pairs error refused))
      case h_2 params _ =>
          refine .reading method (store_list entity store service.limits clock params) ?_
          exact neverInternal_bind (neverInternal_list holds member service.limits clock params)
            fun _ _ => neverInternal_ok _
  | post =>
      rw [method] at asked
      cases asked
      refine .writing (by simp [method]) first served ?_
      rw [method]
      exact (settled_create holds member clock request.payload).andThen fun _ => ⟨_, rfl⟩
  | put =>
      rw [method] at asked
      cases asked
  | delete =>
      rw [method] at asked
      cases asked

/-- The operation on one record of an entity. -/
private theorem carried_onOne {store : Store} (holds : HoldsCatalogue store) (service : Service)
    (clock : Clock) {request : Request} {route id : String} {entity : Entity} {action : Action}
    (first : (segments request.path).head? = some route)
    (served : Registry.standard.entity? route = some entity)
    (asked : Action.onOne entity id request.method = some action) :
    Carried store request (action.run service store clock request) := by
  have member := mem_catalogue_of_entity? served
  cases method : request.method with
  | get =>
      rw [method] at asked
      cases asked
      refine .reading method rfl ?_
      exact neverInternal_bind (neverInternal_read holds member clock id) fun _ _ =>
        neverInternal_ok _
  | post =>
      rw [method] at asked
      cases asked
  | put =>
      rw [method] at asked
      cases asked
      refine .writing (by simp [method]) first served ?_
      rw [method]
      exact (settled_update holds member clock id request.payload).andThen fun _ => ⟨_, rfl⟩
  | delete =>
      rw [method] at asked
      cases asked
      refine .writing (by simp [method]) first served ?_
      rw [method]
      exact (settled_delete holds member id).andThen fun _ => ⟨_, rfl⟩

/-- Every operation that a request may ask for. -/
private theorem carried_run {store : Store} (holds : HoldsCatalogue store) (service : Service)
    (clock : Clock) {request : Request} {action : Action}
    (asked : Action.of? .standard request.method (segments request.path) = some action) :
    Carried store request (action.run service store clock request) := by
  rcases Action.of?_cases asked with
    ⟨method, rfl⟩ | ⟨method, id, rfl⟩ | ⟨route, entity, first, served, onAll | ⟨id, onOne⟩⟩
  · exact .reading method rfl (neverInternal_ok _)
  · refine .reading method (store_browse store service.limits clock _ request.query) ?_
    exact neverInternal_bind (neverInternal_browse holds service.limits clock _ request.query)
      fun _ _ => neverInternal_ok _
  · exact carried_onAll holds service clock first served onAll
  · exact carried_onOne holds service clock first served onOne

/-- The answer to a request: no route, or the operation that it asks for. -/
theorem answer_cases {store : Store} (holds : HoldsCatalogue store) {service : Service}
    (standard : service.registry = .standard) (clock : Clock) (request : Request) :
    (answer service store clock request).response.status = 404 ∧
        (answer service store clock request).store = store ∨
      ∃ outcome, Carried store request outcome ∧
        (answer service store clock request).store = outcome.store ∧
        ((∃ body, outcome.answer = .ok body ∧
            (answer service store clock request).response.status = 200) ∨
          ∃ error, outcome.answer = .error error ∧
            (answer service store clock request).response.status = error.status) := by
  unfold answer
  rw [standard]
  dsimp only
  split
  case h_1 => exact .inl ⟨rfl, rfl⟩
  case h_2 action asked =>
      refine .inr ⟨_, carried_run holds service clock asked, ?_⟩
      split
      case h_1 body answered => exact ⟨rfl, .inl ⟨body, answered, rfl⟩⟩
      case h_2 error refused => exact ⟨rfl, .inr ⟨error, refused, rfl⟩⟩

theorem status_of_client {error : RequestError} (client : error.kind ≠ .internal) :
    error.status = 400 ∨ error.status = 404 := by
  cases error <;> simp_all [RequestError.status, RequestError.kind, RequestError.Kind.status]

theorem not_succeeds_of_client {error : RequestError} (client : error.kind ≠ .internal) :
    succeeds error.status = false := by
  rcases status_of_client client with bad | missing
  · rw [bad]
    rfl
  · rw [missing]
    rfl

theorem response_dispatch (service : Service) (store : Store) (clock : Clock) (request : Request) :
    (dispatch service store clock request).response =
      (answer service store clock request).response := by
  unfold dispatch
  dsimp only
  split
  · unfold record
    dsimp only
    split <;> rfl
  · rfl

/-! ## The operation that is asked for -/

/-- The reply that the outcome of an operation is answered with. -/
def Outcome.reply (call : Journal.Call) (outcome : Outcome Json) : Reply :=
  let reply : Reply :=
    match outcome.answer with
    | .ok body => ⟨.ok body, outcome.store, outcome.events⟩
    | .error error =>
      ⟨.ofError error, outcome.store, outcome.events ++ [refusalEvent call error]⟩
  { reply with events := reply.events ++ [.answered call reply.response.status] }

theorem answer_of_asked {service : Service} {request : Request} {action : Action}
    (asked : Action.of? service.registry request.method (segments request.path) = some action)
    (store : Store) (clock : Clock) :
    answer service store clock request =
      (action.run service store clock request).reply request.call := by
  simp only [answer, asked]
  rfl

/-! ## Routes -/

/-- What the routes of the catalogue have in common: each is one segment, and none of them is
served otherwise. -/
structure PlainRoute (route : String) : Prop where
  nonempty : route ≠ ""
  free : '/' ∉ route.toList
  other : route ≠ "operators"

section

variable {route : String} {entity : Entity}
  (served : Registry.standard.entity? route = some entity)
include served

theorem plainRoute_of_entity? : PlainRoute route := by
  have each : ∀ route ∈ Fields.names Registry.standard,
      route ≠ "" ∧ '/' ∉ route.toList ∧ route ≠ "operators" := by
    decide
  have named : route ∈ Fields.names Registry.standard :=
    List.mem_map_of_mem (Fields.mem_of_get?_eq_some served)
  obtain ⟨nonempty, free, other⟩ := each route named
  exact ⟨nonempty, free, other⟩

theorem Action.of?_route (method : Method) :
    Action.of? .standard method [route] = onAll entity method := by
  have other := (plainRoute_of_entity? served).other
  unfold Action.of?
  split
  case h_1 same => exact absurd (List.cons.inj same).1 other
  case h_2 impossible => cases impossible
  case h_3 same =>
      cases same
      rw [served]
      rfl
  case h_4 impossible => cases impossible
  case h_5 unmatched _ _ _ => exact (unmatched route rfl).elim

theorem Action.of?_route_segment (method : Method) (segment : String) :
    Action.of? .standard method [route, segment] =
      onOne entity (decodeSegment segment) method := by
  unfold Action.of?
  split
  case h_1 impossible => cases impossible
  case h_2 impossible => cases impossible
  case h_3 impossible => cases impossible
  case h_4 same =>
      cases same
      rw [served]
      rfl
  case h_5 _ unmatched _ _ => exact (unmatched route _ rfl).elim

end

/-! ## All requests -/

/-- Every request to a reachable store is answered with one of three statuses. -/
theorem status_dispatch {store : Store} (reachable : Reachable store) {service : Service}
    (standard : service.registry = .standard) (clock : Clock) (request : Request) :
    (dispatch service store clock request).response.status ∈ [200, 400, 404] := by
  rw [response_dispatch]
  have oneOf {status : Nat} (one : status = 200 ∨ status = 400 ∨ status = 404) :
      status ∈ [200, 400, 404] := by
    simpa using one
  rcases answer_cases reachable.holdsCatalogue standard clock request with
    ⟨notFound, -⟩ | ⟨outcome, carried, -, ⟨body, -, succeeded⟩ | ⟨error, refused, status⟩⟩
  · exact oneOf (.inr (.inr notFound))
  · exact oneOf (.inl succeeded)
  · have client : error.kind ≠ .internal := by
      cases carried with
      | reading method unchanged noFault => exact noFault error refused
      | writing method first served settled =>
          cases settled with
          | done answer events found sameSpec change => cases refused
          | refused events client =>
              cases refused
              exact client
    exact oneOf (.inr (status ▸ status_of_client client))

/-- A stored movie is read and rated anew, added once more and removed, and another one is not found. -/
theorem status_dispatch_movie :
    let heat : Row := [("id", .int64 7), ("title", .text "Heat"), ("imdb_id", .null),
      ("tmdb_id", .null), ("poster_path", .null), ("release_date", .text "1995-12-15"),
      ("budget", .null), ("rating", .real .zero), ("vote_count", .int64 0), ("genres", .text "Crime")]
    let store := emptyStore.put ⟨movie.spec, [⟨1, heat⟩], 2⟩
    let again : Json := .object [("id", .int 7), ("title", .string "Heat")]
    let requests : List Request :=
      [{ method := .get, path := "/movies/7" },
        { method := .put, path := "/movies/7", body := some (.object [("rating", .int 8)]) },
        { method := .post, path := "/movies", body := some again },
        { method := .delete, path := "/movies/7" }, { method := .get, path := "/movies/8" }]
    let status (request : Request) : Nat :=
      (dispatch {} store ⟨0, .zero, .zero, 0⟩ request).response.status
    requests.map status = [200, 200, 400, 200, 404] ∧
      ∀ request ∈ requests, status request ∈ [200, 400, 404] := by
  intro heat store again requests status
  have inserted : emptyStore.commit "movie" [.insert heat] = .ok (store, [heat]) :=
    Store.commit_eq_ok.mpr ⟨⟨movie.spec, [], 1⟩, _, rfl, by with_unfolding_all rfl, rfl⟩
  refine ⟨by decide +kernel, fun request _ => ?_⟩
  exact status_dispatch (.committed .empty inserted) (rfl : ({} : Service).registry = .standard) _
    request

/-- An answer that is no success, or to a reading request, leaves the store as it was. -/
theorem store_answer {store : Store} (holds : HoldsCatalogue store) {service : Service}
    (standard : service.registry = .standard) (clock : Clock) (request : Request)
    (idle : succeeds (answer service store clock request).response.status = false ∨
      request.method = .get) :
    (answer service store clock request).store = store := by
  rcases answer_cases holds standard clock request with
    ⟨-, unchanged⟩ | ⟨outcome, carried, sameStore, answered⟩
  · exact unchanged
  rw [sameStore]
  cases carried with
  | reading method unchanged noFault => exact unchanged
  | writing method first served settled =>
      cases settled with
      | refused events client => rfl
      | done answer events found sameSpec change =>
          obtain ⟨body, -, status⟩ | ⟨error, impossible, -⟩ := answered
          · rw [status] at idle
            rcases idle with failed | reads
            · cases failed
            · exact absurd reads method
          · cases impossible

/-- A request that is not recorded is answered and nothing else. -/
theorem dispatch_of_quiet {service : Service} (quiet : service.recording = false) (store : Store)
    (clock : Clock) (request : Request) :
    dispatch service store clock request = answer service store clock request := by
  simp [dispatch, quiet]

/--
A request that fails or only reads changes nothing. One that writes and succeeds changes
the table of the entity that its path names by one row, and no other table.
-/
theorem store_dispatch {store : Store} (reachable : Reachable store) {service : Service}
    (standard : service.registry = .standard) (quiet : service.recording = false) (clock : Clock)
    (request : Request) :
    let reply := dispatch service store clock request
    (succeeds reply.response.status = false ∨ request.method = .get → reply.store = store) ∧
      (succeeds reply.response.status = true → request.method ≠ .get →
        ∃ route entity before after, (segments request.path).head? = some route ∧
          Registry.standard.entity? route = some entity ∧
          store.find? entity.table = some before ∧ reply.store.find? entity.table = some after ∧
          after.spec = before.spec ∧ RowChange before.rows request.method after.rows ∧
          ∀ name, name ≠ entity.table → reply.store.find? name = store.find? name) := by
  rw [dispatch_of_quiet quiet]
  refine ⟨store_answer reachable.holdsCatalogue standard clock request, fun succeeded writes => ?_⟩
  rcases answer_cases reachable.holdsCatalogue standard clock request with
    ⟨notFound, -⟩ | ⟨outcome, carried, sameStore, answered⟩
  · rw [notFound] at succeeded
    cases succeeded
  rw [sameStore]
  cases carried with
  | reading method unchanged noFault => exact absurd method writes
  | writing method first served settled =>
      rename_i route entity
      cases settled with
      | refused events client =>
          rename_i error
          obtain ⟨body, impossible, -⟩ | ⟨other, same, status⟩ := answered
          · cases impossible
          · cases same
            rw [status, not_succeeds_of_client client] at succeeded
            cases succeeded
      | done answer events found sameSpec change =>
          rename_i before after
          have named : after.spec.name = entity.table := sameSpec ▸ Store.name_of_find? found
          exact ⟨route, entity, before, after, first, served, found,
            Store.find?_put_self found named, sameSpec, change, fun name other =>
              Store.find?_put_of_ne (named ▸ other)⟩

/-- A genre that is added to the empty catalogue. -/
theorem store_dispatch_new_genre :
    let request : Request :=
      { method := .post, path := "/genres", body := some (.object [("id", .string "Drama")]) }
    let reply := dispatch {} emptyStore ⟨0, .zero, .zero, 0⟩ request
    reply.response.status = 200 ∧
      ∃ route entity before after, (segments request.path).head? = some route ∧
        Registry.standard.entity? route = some entity ∧
        emptyStore.find? entity.table = some before ∧
        reply.store.find? entity.table = some after ∧ after.spec = before.spec ∧
        RowChange before.rows .post after.rows ∧
        ∀ name, name ≠ entity.table → reply.store.find? name = emptyStore.find? name := by
  intro request reply
  have answered : reply.response.status = 200 := by decide +kernel
  have succeeded : succeeds reply.response.status = true := by rw [answered]; rfl
  exact ⟨answered, (store_dispatch .empty rfl rfl _ request).2 succeeded nofun⟩

end MovieCatalogue.Endpoint

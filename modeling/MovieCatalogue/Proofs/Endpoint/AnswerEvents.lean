import MovieCatalogue.Proofs.Endpoint.Dispatch
import MovieCatalogue.Proofs.Journal.Accounting

/-!
Contract: the reads and changes that the answer to a request tells of.

Owns: `Told`, events that tell of one read of the page which is answered, or of one change, and of
nothing if the request is refused; and that the events of an answer are of this kind: one read for a
list or a section that is answered, one change for a creation, an update or a deletion.
Does not own: the record of the request, and runs; see `Proofs.Endpoint.Accounting`.
-/

namespace MovieCatalogue.Endpoint

open MovieCatalogue.Journal MovieCatalogue.Record MovieCatalogue.Refusal MovieCatalogue.Selection
  MovieCatalogue.Storage

variable {α : Type} {store : Store} {entity : Entity}

/-- A body is a page of this number and size, of so many items. -/
def ShowsPage (body : Json) (page limit total : Nat) : Prop :=
  ∃ members, body = .object members ∧ Fields.get? "page" members = some (.int page) ∧
    Fields.get? "items_per_page" members = some (.int limit) ∧
    Fields.get? "total_items" members = some (.int total)

/-- A read took as long as the clock says, and the page that it tells of is answered. -/
def ReadAs (clock : Clock) (body : Json) (read : PagedRead) : Prop :=
  read.elapsed = clock.elapsed ∧ ShowsPage body read.page read.limit read.total

/-- The events of an outcome tell of its page, if it should answer with one, of a change, if it
should make one, and of neither if it is a refusal. -/
structure Told (clock : Clock) (pages writes : Bool) (outcome : Outcome Json) : Prop where
  ok : ∀ body, outcome.answer = .ok body →
    List.Forall₂ (ReadAs clock) (if pages then [body] else []) (reads outcome.events) ∧
      changes outcome.events = if writes then 1 else 0
  error : ∀ error, outcome.answer = .error error → Silent outcome.events

variable {clock : Clock} {pages writes : Bool}

theorem told_error (error : RequestError) {events : List Event} (silent : Silent events) :
    Told clock pages writes ⟨.error error, store, events⟩ where
  ok _ impossible := nomatch impossible
  error _ _ := silent

/-- An operation without events that neither reads pages nor writes. -/
theorem told_silent (answer : Except RequestError Json) :
    Told clock false false ⟨answer, store, []⟩ where
  ok _ _ := ⟨.nil, rfl⟩
  error _ _ := ⟨rfl, rfl⟩

/-! ## Lists -/

/-- The page and the size that are asked for are those of the page that is found. -/
theorem place_of_paginate {query : Query} {page limit : Nat} {rows : Page Row}
    (found : paginate store query page limit = .ok rows) :
    rows.page = page ∧ rows.itemsPerPage = limit := by
  unfold paginate at found
  split at found
  · cases found
  obtain ⟨total, -, rest⟩ := bind_eq_ok.mp found
  dsimp only at rest
  split at rest
  · cases rest
  obtain ⟨items, -, built⟩ := bind_eq_ok.mp rest
  cases built
  exact ⟨rfl, rfl⟩

theorem told_list (holds : HoldsCatalogue store) (member : entity ∈ catalogue) (limits : PageLimits)
    (clock : Clock) (params : ListParams) :
    Told clock true false ((list entity store limits clock params).andThen (pageJson entity)) := by
  unfold list
  split
  case h_1 error _ => exact told_error error ⟨rfl, rfl⟩
  case h_2 page limit _ =>
      split
      case h_1 error _ => exact told_error error ⟨rfl, rfl⟩
      case h_2 query built =>
          split
          case h_1 error _ => exact told_error error ⟨rfl, rfl⟩
          case h_2 rows found =>
              obtain ⟨-, held⟩ := paginate_spec holds member (concerns_buildQuery built) page limit
              obtain ⟨rfl, rfl⟩ := place_of_paginate found
              obtain ⟨records, decoded⟩ := exists_mapM_eq_ok.mpr fun row inItems =>
                exists_ofRow member (held rows found row inItems) clock.now
              have answered : rows.tryMap (entity.ofRow clock.now) = .ok (rows.withItems records) :=
                map_eq_ok.mpr ⟨records, decoded, rfl⟩
              rw [answered]
              refine ⟨fun body same => ?_, fun error impossible => nomatch impossible⟩
              cases same
              exact ⟨.cons ⟨rfl, _, rfl, rfl, rfl, rfl⟩ .nil, rfl⟩

theorem told_browse (holds : HoldsCatalogue store) (limits : PageLimits) (clock : Clock)
    (id : String) (query : List (String × String)) :
    Told clock true false ((browse store limits clock id query).andThen (pageJson movie)) := by
  unfold browse
  split
  case h_1 error _ => exact told_error error ⟨rfl, rfl⟩
  case h_2 record _ =>
      split
      case h_1 error _ => exact told_error error ⟨rfl, rfl⟩
      case h_2 params _ => exact told_list holds (by simp [catalogue]) limits clock _

/-! ## Changes -/

/-- A planned change is told of if it is committed. -/
theorem carryOut_cases (entity : Entity) (store : Store) (plan : Except RequestError Work) :
    (∃ work written after, plan = .ok work ∧ carryOut entity store plan =
        ⟨.ok written, after, [.committed entity.table 1, work.done]⟩) ∨
      ∃ error, carryOut entity store plan = .refused store error := by
  cases plan with
  | error error => exact .inr ⟨error, rfl⟩
  | ok work =>
      rw [carryOut, perform, Session.commit]
      cases committed : store.commit entity.table [work.change] with
      | error error => exact .inr ⟨_, rfl⟩
      | ok outcome => exact .inl ⟨work, outcome.2, outcome.1, rfl, rfl⟩

theorem Settled.neverInternal {method : Method} {outcome : Outcome α}
    (settled : Settled store entity method outcome) : NeverInternal outcome.answer := by
  cases settled with
  | done answer events found sameSpec change => exact neverInternal_ok answer
  | refused events client => exact neverInternal_error client

/-- A writing operation whose refusals are no faults does not fail once it has committed. -/
theorem told_carryOut {plan : Except RequestError Work} {finish : List Row → Except RequestError α}
    {written : α → Except RequestError Json}
    (never : NeverInternal ((carryOut entity store plan).andThen finish).answer)
    (faults : ∀ rows error, finish rows = .error error → error.kind = .internal)
    (quiet : ∀ work, plan = .ok work → Silent [work.done])
    (total : ∀ result, ∃ body, written result = .ok body) (clock : Clock) :
    Told clock false true (((carryOut entity store plan).andThen finish).andThen written) := by
  rcases carryOut_cases entity store plan with ⟨work, rows, after, planned, done⟩ | ⟨error, refused⟩
  · rw [done] at never ⊢
    obtain ⟨noReads, noChanges⟩ := quiet work planned
    cases finished : finish rows with
    | error error => exact absurd (faults rows error finished) (never error finished)
    | ok result =>
        obtain ⟨body, shown⟩ := total result
        have outcome : Outcome.andThen (Outcome.andThen
            ⟨.ok rows, after, [.committed entity.table 1, work.done]⟩ finish) written =
              ⟨.ok body, after, [.committed entity.table 1, work.done]⟩ := by
          simp only [Outcome.andThen, Except.bind, finished, shown]
        rw [outcome]
        refine ⟨fun _ _ => ⟨?_, ?_⟩, fun error impossible => ?_⟩
        · exact (show reads _ = [] from noReads) ▸ .nil
        · exact congrArg (1 + ·) noChanges
        · cases impossible
  · rw [refused]
    exact told_error error ⟨rfl, rfl⟩

theorem internal_of_ofRow {now : Int64} {row : Row} {error : RequestError}
    (refused : entity.ofRow now row = .error error) : error.kind = .internal := by
  unfold Entity.ofRow at refused
  split at refused
  · cases refused
  · cases refused
    rfl

theorem internal_of_writtenRecord {clock : Clock} {rows : List Row} {error : RequestError}
    (refused : writtenRecord entity clock rows = .error error) : error.kind = .internal := by
  unfold writtenRecord at refused
  split at refused
  · exact internal_of_ofRow refused
  · cases refused
    rfl

theorem told_create (holds : HoldsCatalogue store) (member : entity ∈ catalogue) (clock : Clock)
    (body : Json) :
    Told clock false true ((create entity store clock body).andThen (recordJson entity)) := by
  refine told_carryOut (settled_create holds member clock body).neverInternal
    (fun _ _ => internal_of_writtenRecord) (fun work planned => ?_) (fun _ => ⟨_, rfl⟩) clock
  obtain ⟨members, -, rest⟩ := bind_eq_ok.mp planned
  obtain ⟨record, -, built⟩ := bind_eq_ok.mp rest
  cases built
  exact ⟨rfl, rfl⟩

theorem told_update (holds : HoldsCatalogue store) (member : entity ∈ catalogue) (clock : Clock)
    (id : String) (body : Json) :
    Told clock false true ((update entity store clock id body).andThen (recordJson entity)) := by
  refine told_carryOut (settled_update holds member clock id body).neverInternal
    (fun _ _ => internal_of_writtenRecord) (fun work planned => ?_) (fun _ => ⟨_, rfl⟩) clock
  obtain ⟨changes, -, rest⟩ := bind_eq_ok.mp planned
  obtain ⟨row, -, rest⟩ := bind_eq_ok.mp rest
  obtain ⟨current, -, rest⟩ := bind_eq_ok.mp rest
  obtain ⟨record, -, built⟩ := bind_eq_ok.mp rest
  cases built
  exact ⟨rfl, rfl⟩

theorem told_delete (holds : HoldsCatalogue store) (member : entity ∈ catalogue) (clock : Clock)
    (id : String) : Told clock false true
      ((delete entity store id).andThen fun _ => .ok (.object [("result", .string "OK")])) := by
  refine told_carryOut (settled_delete holds member id).neverInternal
    (fun _ _ impossible => nomatch impossible) (fun work planned => ?_) (fun _ => ⟨_, rfl⟩) clock
  obtain ⟨row, -, built⟩ := bind_eq_ok.mp planned
  cases built
  exact ⟨rfl, rfl⟩

/-! ## Requests -/

/-- An operation is answered with a page. -/
def Action.isPaged : Action → Bool
  | .browse _ | .list _ => true
  | _ => false

/-- A request asks for a list or a section. -/
def Request.asksForPage (request : Request) : Bool :=
  (Action.of? .standard request.method (segments request.path)).any Action.isPaged

/-- A request asks for a creation, an update or a deletion. -/
def Request.isWriting (request : Request) : Bool :=
  request.method != .get

theorem told_run (holds : HoldsCatalogue store) (service : Service) (clock : Clock)
    {request : Request} {action : Action}
    (asked : Action.of? .standard request.method (segments request.path) = some action) :
    Told clock action.isPaged request.isWriting (action.run service store clock request) := by
  unfold Request.isWriting
  rcases Action.of?_cases asked with
    ⟨method, rfl⟩ | ⟨method, id, rfl⟩ | ⟨route, entity, -, served, onAll | ⟨id, onOne⟩⟩
  · rw [method]
    exact told_silent _
  · rw [method]
    exact told_browse holds service.limits clock id request.query
  · have member := mem_catalogue_of_entity? served
    cases method : request.method <;> rw [method] at onAll <;> cases onAll
    · rw [Action.run]
      split
      case h_1 error _ => exact told_error error ⟨rfl, rfl⟩
      case h_2 params _ => exact told_list holds member service.limits clock params
    · exact told_create holds member clock request.payload
  · have member := mem_catalogue_of_entity? served
    cases method : request.method <;> rw [method] at onOne <;> cases onOne
    · exact told_silent _
    · exact told_update holds member clock id request.payload
    · exact told_delete holds member clock id

section

variable {service : Service} {request : Request} {action : Action}
  (asked : Action.of? service.registry request.method (segments request.path) = some action)
include asked

theorem answer_of_ok {body : Json}
    (answered : (action.run service store clock request).answer = .ok body) :
    answer service store clock request =
      ⟨.ok body, (action.run service store clock request).store,
        (action.run service store clock request).events ++ [.answered request.call 200]⟩ := by
  unfold answer
  rw [asked]
  dsimp only
  rw [answered]
  rfl

theorem answer_of_error {error : RequestError}
    (refused : (action.run service store clock request).answer = .error error) :
    answer service store clock request =
      ⟨.ofError error, (action.run service store clock request).store,
        (action.run service store clock request).events ++
          [refusalEvent request.call error, .answered request.call error.status]⟩ := by
  unfold answer
  rw [asked]
  dsimp only
  rw [refused]
  dsimp only
  rw [List.append_assoc]
  rfl

end

theorem status_ne_ok (error : RequestError) : error.status ≠ 200 := by
  cases error <;> exact (nomatch ·)

/--
The answer to a request tells of one read of the page in its body, if a list or a section was asked
for and is answered; of one change, if a creation, an update or a deletion was asked for and is
answered; and of nothing else.
-/
theorem told_answer (holds : HoldsCatalogue store) {service : Service}
    (standard : service.registry = .standard) (clock : Clock) (request : Request) :
    let reply := answer service store clock request
    List.Forall₂ (ReadAs clock)
        (if request.asksForPage && reply.response.status == 200 then [reply.response.body] else [])
        (reads reply.events) ∧
      changes reply.events =
        if request.isWriting && reply.response.status == 200 then 1 else 0 := by
  intro reply
  cases asked : Action.of? service.registry request.method (segments request.path) with
  | none =>
      have unserved : reply = ⟨.routeNotFound, store, [.answered request.call 404]⟩ := by
        simp only [reply, answer, asked]
        rfl
      rw [unserved]
      simp [Response.routeNotFound, Response.detail, reads, changes, Event.read?, Event.changes]
  | some action =>
      have told := told_run holds service clock (standard ▸ asked)
      have paged : request.asksForPage = action.isPaged := by
        rw [Request.asksForPage, ← standard, asked]
        rfl
      rw [paged]
      cases answered : (action.run service store clock request).answer with
      | ok body =>
          obtain ⟨noReads, noChanges⟩ : Silent [.answered request.call 200] := ⟨rfl, rfl⟩
          rw [show reply = _ from answer_of_ok asked answered]
          simpa [Response.ok, reads_append, changes_append, noReads, noChanges] using
            told.ok body answered
      | error error =>
          obtain ⟨noReads, noChanges⟩ :
              Silent [refusalEvent request.call error, .answered request.call error.status] := by
            cases error <;> exact ⟨rfl, rfl⟩
          obtain ⟨noReadsBefore, noChangesBefore⟩ := told.error error answered
          rw [show reply = _ from answer_of_error asked answered]
          simp [Response.ofError, Response.detail, status_ne_ok, reads_append, changes_append,
            noReads, noChanges, noReadsBefore, noChangesBefore]

end MovieCatalogue.Endpoint

import MovieCatalogue.Proofs.Endpoint.Dispatch
import MovieCatalogue.Proofs.Storage.SameChanges

/-!
Contract: requests to stores that they cannot tell apart.

Owns: `Agreement`, a relation between stores in which commits to the tables in sight and
queries about them come to the same; that requests to such tables are answered in the
same way, tell of the same events and leave stores that are related again; that so are sound
stores which differ in their row numbers only, and stores with the same tables under all names but
one, for requests that are not about this one; and that such requests leave it as it is.
Does not own: what the answer is; see `Proofs.Endpoint.Dispatch`.
-/

namespace MovieCatalogue.Storage

open MovieCatalogue.Refusal

/-- Two stores have the same tables under all names but one. -/
def Store.AgreeBut (hidden : String) (first second : Store) : Prop :=
  ∀ name, name ≠ hidden → first.find? name = second.find? name

namespace Store.AgreeBut

variable {hidden name : String} {first second : Store}

theorem put_hidden (agree : AgreeBut hidden first second) {next : Table}
    (named : next.spec.name = hidden) : AgreeBut hidden (first.put next) second := by
  intro other inSight
  rw [find?_put_of_ne (named ▸ inSight)]
  exact agree other inSight

/-- A commit to another table does the same to both stores. -/
theorem commit (agree : AgreeBut hidden first second) (inSight : name ≠ hidden)
    (changes : List Change) :
    Alike (fun result other => AgreeBut hidden result.1 other.1 ∧ result.2 = other.2)
      (first.commit name changes) (second.commit name changes) :=
  AgreeOn.commit agree inSight changes

end Store.AgreeBut

end MovieCatalogue.Storage

namespace MovieCatalogue.Endpoint

open MovieCatalogue.Record MovieCatalogue.Refusal MovieCatalogue.Selection MovieCatalogue.Storage

/-- In the relation `R` nothing that is done with the tables in sight tells two stores apart. -/
structure Agreement (R : Store → Store → Prop) (InSight : String → Prop) : Prop where
  commit {first second : Store} (related : R first second) {name : String} (seen : InSight name)
    (changes : List Change) :
    Alike (fun result other => R result.1 other.1 ∧ result.2 = other.2)
      (first.commit name changes) (second.commit name changes)
  count {first second : Store} (related : R first second) {query : Query}
    (seen : InSight query.table) : first.count query = second.count query
  fetch {first second : Store} (related : R first second) {query : Query}
    (seen : InSight query.table) (offset : Nat) (limit : Option Nat) :
    first.fetch query offset limit = second.fetch query offset limit

/-- Two operations gave the same answer, told the same and left related stores. -/
structure Outcome.InStep {α : Type} (R : Store → Store → Prop) (first second : Outcome α) :
    Prop where
  answer : first.answer = second.answer
  store : R first.store second.store
  events : first.events = second.events

theorem Outcome.InStep.andThen {α β : Type} {R : Store → Store → Prop} {first second : Outcome α}
    (inStep : first.InStep R second) (f : α → Except RequestError β) :
    (first.andThen f).InStep R (second.andThen f) :=
  ⟨congrArg (fun answer => answer.bind f) inStep.answer, inStep.store, inStep.events⟩

/-- Two replies say the same, tell the same and leave related stores. -/
structure Reply.InStep (R : Store → Store → Prop) (first second : Reply) : Prop where
  response : first.response = second.response
  store : R first.store second.store
  events : first.events = second.events

/-- The tables that an operation reads and writes. -/
def Action.tables : Action → List String
  | .operators => []
  | .browse _ => [movieSection.table, movie.table]
  | .list entity | .create entity | .read entity _ | .update entity _ | .delete entity _ =>
    [entity.table]

namespace Agreement

variable {R : Store → Store → Prop} {InSight : String → Prop} (agreement : Agreement R InSight)
  {first second : Store} (related : R first second)
include agreement related

/-! ## Writing -/

theorem perform {entity : Entity} (seen : InSight entity.table) (work : Work) :
    (perform entity first work).InStep R (perform entity second work) := by
  have alike := agreement.commit related seen [work.change]
  unfold Endpoint.perform Session.commit
  generalize first.commit entity.table [work.change] = outcome at alike
  generalize second.commit entity.table [work.change] = otherOutcome at alike
  cases alike with
  | refused error => exact ⟨rfl, related, rfl⟩
  | taken both => exact ⟨congrArg Except.ok both.2, both.1, rfl⟩

theorem carryOut {entity : Entity} (seen : InSight entity.table)
    (plan : Except RequestError Work) :
    (carryOut entity first plan).InStep R (carryOut entity second plan) := by
  cases plan with
  | error error => exact ⟨rfl, related, rfl⟩
  | ok work => exact agreement.perform related seen work

/-! ## Reading -/

theorem findRow_eq {entity : Entity} (seen : InSight entity.table) (id : String) :
    findRow entity first id = findRow entity second id := by
  unfold findRow
  cases asked : identifierQuery entity id with
  | error error => rfl
  | ok query =>
      have table : query.table = entity.table := by
        obtain ⟨identifier, -, built⟩ := bind_eq_ok.mp asked
        cases built
        rfl
      have fetched := agreement.fetch related (table.symm ▸ seen) 0 (some 1)
      simp only [bind, Except.bind, fetched]

theorem read_eq {entity : Entity} (seen : InSight entity.table) (clock : Clock) (id : String) :
    read entity first clock id = read entity second clock id := by
  rw [read, read, agreement.findRow_eq related seen]

theorem paginate_eq {query : Query} (seen : InSight query.table) (page limit : Nat) :
    paginate first query page limit = paginate second query page limit := by
  simp only [paginate, agreement.count related seen, agreement.fetch related seen]

theorem list {entity : Entity} (seen : InSight entity.table) (limits : PageLimits) (clock : Clock)
    (params : ListParams) :
    (list entity first limits clock params).InStep R (list entity second limits clock params) := by
  unfold Endpoint.list
  split
  case h_1 => exact ⟨rfl, related, rfl⟩
  case h_2 page limit resolved =>
      split
      case h_1 => exact ⟨rfl, related, rfl⟩
      case h_2 query built =>
          have table : query.table = entity.table := (concerns_buildQuery built).table
          rw [agreement.paginate_eq related (table.symm ▸ seen)]
          split
          case h_1 => exact ⟨rfl, related, rfl⟩
          case h_2 => exact ⟨rfl, related, rfl⟩

theorem browse (sectionSeen : InSight movieSection.table) (movieSeen : InSight movie.table)
    (limits : PageLimits) (clock : Clock) (id : String) (query : List (String × String)) :
    (browse first limits clock id query).InStep R (browse second limits clock id query) := by
  unfold Endpoint.browse
  rw [agreement.read_eq related sectionSeen]
  split
  case h_1 => exact ⟨rfl, related, rfl⟩
  case h_2 =>
      split
      case h_1 => exact ⟨rfl, related, rfl⟩
      case h_2 => exact agreement.list related movieSeen limits clock _

/-! ## Writing what was read -/

theorem update {entity : Entity} (seen : InSight entity.table) (clock : Clock) (id : String)
    (body : Json) :
    (update entity first clock id body).InStep R (update entity second clock id body) := by
  have samePlan : planUpdate entity first clock id body = planUpdate entity second clock id body := by
    simp only [planUpdate, agreement.findRow_eq related seen]
  rw [Endpoint.update, samePlan]
  exact (agreement.carryOut related seen _).andThen _

theorem delete {entity : Entity} (seen : InSight entity.table) (id : String) :
    (delete entity first id).InStep R (delete entity second id) := by
  have samePlan : planDelete entity first id = planDelete entity second id := by
    simp only [planDelete, agreement.findRow_eq related seen]
  rw [Endpoint.delete, samePlan]
  exact (agreement.carryOut related seen _).andThen _

/-! ## Requests -/

theorem run {action : Action} (seen : ∀ name ∈ action.tables, InSight name) (service : Service)
    (clock : Clock) (request : Request) :
    (action.run service first clock request).InStep R
      (action.run service second clock request) := by
  cases action with
  | operators => exact ⟨rfl, related, rfl⟩
  | browse id =>
      have sectionSeen := seen movieSection.table (by simp [Action.tables])
      have movieSeen := seen movie.table (by simp [Action.tables])
      exact (agreement.browse related sectionSeen movieSeen service.limits clock id _).andThen _
  | list entity =>
      rw [Action.run, Action.run]
      split
      · exact ⟨rfl, related, rfl⟩
      · exact (agreement.list related (seen _ List.mem_cons_self) service.limits clock _).andThen _
  | create entity =>
      have carried := agreement.carryOut related (seen _ List.mem_cons_self)
        (planCreate entity clock request.payload)
      exact (carried.andThen _).andThen _
  | read entity id =>
      have same := agreement.read_eq related (seen _ List.mem_cons_self) clock id
      exact ⟨by rw [Action.run, Action.run, same], related, rfl⟩
  | update entity id =>
      exact (agreement.update related (seen _ List.mem_cons_self) clock id _).andThen _
  | delete entity id =>
      exact (agreement.delete related (seen _ List.mem_cons_self) id).andThen _

/-- A request is answered in the same way if the tables that it is about are in sight. -/
theorem answer {service : Service} {request : Request}
    (seen : ∀ action, Action.of? service.registry request.method (segments request.path) =
      some action → ∀ name ∈ action.tables, InSight name) (clock : Clock) :
    (answer service first clock request).InStep R (answer service second clock request) := by
  unfold Endpoint.answer
  dsimp only
  cases asked : Action.of? service.registry request.method (segments request.path) with
  | none => exact ⟨rfl, related, rfl⟩
  | some action =>
      obtain ⟨sameAnswer, sameStore, sameEvents⟩ :=
        agreement.run related (seen action asked) service clock request
      dsimp only
      rw [sameAnswer]
      split
      · exact ⟨rfl, sameStore, by rw [sameEvents]⟩
      · exact ⟨rfl, sameStore, by rw [sameEvents]⟩

omit related in
theorem record (seen : InSight requestLog.table) {reply other : Reply}
    (inStep : reply.InStep R other) (clock : Clock) (request : Request) :
    (record clock request reply).InStep R (record clock request other) := by
  obtain ⟨sameResponse, sameStore, sameEvents⟩ := inStep
  unfold Endpoint.record Session.commit
  dsimp only
  rw [sameResponse, sameEvents]
  have recorded := agreement.commit sameStore seen
    [.insertNextKey (logEntry clock request other.response)]
  generalize reply.store.commit requestLog.table _ = outcome at recorded
  generalize other.store.commit requestLog.table _ = otherOutcome at recorded
  cases recorded with
  | refused error => exact ⟨rfl, sameStore, rfl⟩
  | taken both => exact ⟨rfl, both.1, rfl⟩

end Agreement

/-! ## Other row numbers -/

/-- Two replies say the same, tell the same and leave the same rows. -/
structure Reply.Alike (first second : Reply) : Prop where
  response : first.response = second.response
  store : first.store.SameRows second.store
  events : first.events = second.events

/-- Sound stores of the same rows are not told apart by anything. -/
theorem agreement_sameRows : Agreement
    (fun first second => first.SameRows second ∧ first.Sound ∧ second.Sound) fun _ => True where
  commit related name _ changes := by
    obtain ⟨same, firstSound, secondSound⟩ := related
    have alike := same.commit name changes
    generalize committed : Store.commit _ name changes = outcome at alike
    generalize committedOther : Store.commit _ name changes = otherOutcome at alike
    cases alike with
    | refused error => exact .refused error
    | taken both =>
        exact .taken ⟨⟨both.1, firstSound.commit committed, secondSound.commit committedOther⟩,
          both.2⟩
  count related _ _ := by
    obtain ⟨same, firstSound, secondSound⟩ := related
    exact same.count_eq firstSound secondSound _
  fetch related _ _ offset limit := by
    obtain ⟨same, firstSound, secondSound⟩ := related
    exact same.fetch_eq firstSound secondSound _ offset limit

/-- A request is answered in the same way, with the same rows afterwards. -/
theorem dispatch_alike {first second : Store} (same : first.SameRows second)
    (firstSound : first.Sound) (secondSound : second.Sound) (service : Service) (clock : Clock)
    (request : Request) :
    (dispatch service first clock request).Alike (dispatch service second clock request) := by
  have answered : (answer service first clock request).InStep _
      (answer service second clock request) :=
    agreement_sameRows.answer ⟨same, firstSound, secondSound⟩ (fun _ _ _ _ => trivial) clock
  unfold dispatch
  dsimp only
  split
  · have recorded := agreement_sameRows.record trivial answered clock request
    exact ⟨recorded.response, recorded.store.1, recorded.events⟩
  · exact ⟨answered.response, answered.store.1, answered.events⟩

/-! ## Other tables -/

/-- Only what is done with the table in which they differ tells two stores apart. -/
theorem agreement_agreeBut (hidden : String) :
    Agreement (Store.AgreeBut hidden) fun name => name ≠ hidden where
  commit agree _ seen changes := agree.commit seen changes
  count agree _ seen := by rw [Store.count, Store.count, Store.get, Store.get, agree _ seen]
  fetch agree _ seen offset limit := by
    rw [Store.fetch, Store.fetch, Store.get, Store.get, agree _ seen]

variable {name : String} {entity : Entity}

theorem find?_carryOut (other : name ≠ entity.table) (store : Store)
    (plan : Except RequestError Work) :
    (carryOut entity store plan).store.find? name = store.find? name := by
  rcases store_carryOut_cases entity store plan with same | ⟨work, after, _, -, committed, same⟩
  · rw [same]
  · obtain ⟨table, next, found, applied, rfl⟩ := Store.commit_eq_ok.mp committed
    have named : next.spec.name = entity.table :=
      (Table.spec_applyAll applied).symm ▸ Store.name_of_find? found
    rw [same, Store.find?_put_of_ne (named ▸ other)]

theorem find?_run {action : Action} (apart : name ∉ action.tables) (service : Service)
    (store : Store) (clock : Clock) (request : Request) :
    (action.run service store clock request).store.find? name = store.find? name := by
  have other (entity : Entity) (only : action.tables = [entity.table]) : name ≠ entity.table := by
    intro same
    exact apart (by simp [only, same])
  cases action with
  | operators => rfl
  | browse id =>
      have unchanged := store_browse store service.limits clock id request.query
      exact congrArg (fun after : Store => after.find? name) unchanged
  | list entity => rw [store_run_list]
  | create entity => exact find?_carryOut (other entity rfl) store _
  | read entity id => rfl
  | update entity id => exact find?_carryOut (other entity rfl) store _
  | delete entity id => exact find?_carryOut (other entity rfl) store _

/-- A request leaves a table that it is not about as it is. -/
theorem find?_answer {service : Service} {request : Request}
    (apart : ∀ action, Action.of? service.registry request.method (segments request.path) =
      some action → name ∉ action.tables) (store : Store) (clock : Clock) :
    (answer service store clock request).store.find? name = store.find? name := by
  rcases store_answer_cases service store clock request with same | ⟨action, asked, same⟩
  · rw [same]
  · rw [same, find?_run (apart action asked)]

end MovieCatalogue.Endpoint

import MovieCatalogue.Endpoint.Dispatch
import MovieCatalogue.Proofs.Endpoint.Refusal
import MovieCatalogue.Proofs.Record.CatalogueTables

/-!
Contract: what the five operations do to a store that holds the catalogue.

Owns: `RowChange`, a change of exactly one row; `Settled`, an outcome that either made
such a change and answers, or was refused by the client's fault and changed nothing;
that create, update and delete are settled; and that list, read and browse change
nothing and never meet a fault of the store.
Does not own: which operation a request asks for; see `Proofs.Endpoint.Dispatch`.
-/

namespace MovieCatalogue.Endpoint

open MovieCatalogue.Journal MovieCatalogue.Record MovieCatalogue.Refusal MovieCatalogue.Selection
  MovieCatalogue.Storage

variable {α β : Type}

/-! ## Changes of one row -/

/-- How a method changes the rows of a table: by one row. -/
inductive RowChange (rows : List StoredRow) : Method → List StoredRow → Prop
  | appended (new : StoredRow) : RowChange rows .post (rows ++ [new])
  | replaced {before others : List StoredRow} {old : StoredRow}
      (place : rows = before ++ old :: others) (cells : Row) :
      RowChange rows .put (before ++ { old with cells := cells } :: others)
  | removed {before others : List StoredRow} {old : StoredRow}
      (place : rows = before ++ old :: others) : RowChange rows .delete (before ++ others)

/-- The method of the requests that make a change. -/
def methodOf : Change → Method
  | .insert _ | .insertNextKey _ => .post
  | .replace _ _ => .put
  | .delete _ => .delete

/-- A change that is taken changes one row, and all but deletions report this row. -/
theorem rowChange_of_apply {table next : Table} {change : Change} {written : List Row}
    (applied : table.apply change = .ok (next, written)) :
    RowChange table.rows (methodOf change) next.rows ∧
      (methodOf change ≠ .delete → ∃ new ∈ next.rows, written = [new.cells]) := by
  cases change with
  | insert row =>
      obtain ⟨⟨found, stored⟩, inserted, built⟩ := map_eq_ok.mp applied
      cases built
      obtain ⟨-, -, rfl⟩ := Table.insert_eq_ok.mp inserted
      exact ⟨.appended _, fun _ => ⟨⟨table.nextRowid, stored⟩, by simp, rfl⟩⟩
  | insertNextKey row =>
      obtain ⟨⟨found, stored⟩, inserted, built⟩ := map_eq_ok.mp applied
      cases built
      obtain ⟨name, -, inserted⟩ := Table.insertNextKey_eq_ok.mp inserted
      obtain ⟨-, -, rfl⟩ := Table.insert_eq_ok.mp inserted
      exact ⟨.appended _, fun _ => ⟨⟨table.nextRowid, stored⟩, by simp, rfl⟩⟩
  | replace key row =>
      obtain ⟨⟨found, stored⟩, replaced, built⟩ := map_eq_ok.mp applied
      cases built
      obtain ⟨before, old, others, rows, -, -, -, rfl⟩ := Table.replace_eq_ok.mp replaced
      exact ⟨.replaced rows stored, fun _ => ⟨{ old with cells := stored }, by simp, rfl⟩⟩
  | delete key =>
      obtain ⟨found, deleted, built⟩ := map_eq_ok.mp applied
      cases built
      obtain ⟨before, old, others, rows, -, rfl⟩ := Table.delete_eq_ok.mp deleted
      exact ⟨.removed rows, fun impossible => absurd rfl impossible⟩

/-! ## Refused changes -/

/-- Storage errors that a client is told about whatever entity was written. -/
def OfClient (error : StoreError) : Prop :=
  ∀ entity, (RequestError.ofStore entity error).kind ≠ .internal

private theorem ofClient_of_normalize {spec : Spec} {row : Row} {error : StoreError}
    (refused : normalize spec row = .error error) : OfClient error := by
  obtain ⟨_, _, rfl⟩ := exists_of_normalize_eq_error refused
  exact fun _ => nofun

private theorem ofClient_of_checkUnique {spec : Spec} {rows : List StoredRow} {candidate : Row}
    {error : StoreError} (refused : checkUnique spec rows candidate = .error error) :
    OfClient error := by
  unfold checkUnique at refused
  split at refused
  · cases refused
    exact fun _ => nofun
  · cases refused

private theorem ofClient_of_position {table : Table} {key : Key} {error : StoreError}
    (refused : table.position key = .error error) : OfClient error := by
  unfold Table.position at refused
  split at refused
  · cases refused
  · cases refused
    exact fun _ => nofun

private theorem ofClient_of_insert {table : Table} {row : Row} {error : StoreError}
    (refused : table.insert row = .error error) : OfClient error := by
  rcases bind_eq_error.mp refused with notNormal | ⟨stored, -, rest⟩
  · exact ofClient_of_normalize notNormal
  · rcases bind_eq_error.mp rest with taken | ⟨passed, -, impossible⟩
    · exact ofClient_of_checkUnique taken
    · cases impossible

/-- A table refuses a change for its row, for a taken key or for a row that is not there. -/
theorem ofClient_of_apply {table : Table} {change : Change} {error : StoreError}
    (refused : table.apply change = .error error) : OfClient error := by
  cases change with
  | insert row => exact ofClient_of_insert (map_eq_error.mp refused)
  | insertNextKey row =>
      have insertion := map_eq_error.mp refused
      unfold Table.insertNextKey at insertion
      split at insertion
      · cases insertion
        exact fun _ => nofun
      · exact ofClient_of_insert insertion
  | replace key row =>
      rcases bind_eq_error.mp (map_eq_error.mp refused) with notThere | ⟨place, -, rest⟩
      · exact ofClient_of_position notThere
      · rcases bind_eq_error.mp rest with notNormal | ⟨stored, -, rest⟩
        · exact ofClient_of_normalize notNormal
        · rcases bind_eq_error.mp rest with taken | ⟨passed, -, impossible⟩
          · exact ofClient_of_checkUnique taken
          · cases impossible
  | delete key =>
      rcases bind_eq_error.mp (map_eq_error.mp refused) with notThere | ⟨place, -, impossible⟩
      · exact ofClient_of_position notThere
      · cases impossible

/-! ## Writing operations -/

/--
An outcome of an operation that writes to the table of an entity: an answer with one
row changed, or a refusal that is not the store's fault, with the store as it was.
-/
inductive Settled (store : Store) (entity : Entity) (method : Method) : Outcome α → Prop
  | done {table next : Table} (answer : α) (events : List Event)
      (found : store.find? entity.table = some table) (sameSpec : next.spec = table.spec)
      (change : RowChange table.rows method next.rows) :
      Settled store entity method ⟨.ok answer, store.put next, events⟩
  | refused {error : RequestError} (events : List Event) (client : error.kind ≠ .internal) :
      Settled store entity method ⟨.error error, store, events⟩

theorem Settled.andThen {store : Store} {entity : Entity} {method : Method} {outcome : Outcome α}
    (settled : Settled store entity method outcome) {f : α → Except RequestError β}
    (total : ∀ found, ∃ result, f found = .ok result) :
    Settled store entity method (outcome.andThen f) := by
  cases settled with
  | done answer events found sameSpec change =>
      rename_i table next
      obtain ⟨result, finished⟩ := total answer
      have outcome : Outcome.andThen ⟨.ok answer, store.put next, events⟩ f =
          ⟨.ok result, store.put next, events⟩ := by
        simp [Outcome.andThen, Except.bind, finished]
      rw [outcome]
      exact .done result events found sameSpec change
  | refused events client => exact .refused events client

variable {store : Store} {entity : Entity}

section

variable {table : Table} {change : Change} (found : store.find? entity.table = some table)
  (done : Event)
include found

/-- A change that is taken is committed, and what it wrote is answered. -/
theorem perform_of_applied {next : Table} {written : List Row}
    (applied : table.apply change = .ok (next, written)) :
    perform entity store ⟨change, done⟩ =
      ⟨.ok written, store.put next, [.committed entity.table 1, done]⟩ := by
  have committed : store.commit entity.table [change] = .ok (store.put next, written) :=
    Store.commit_singleton_eq_ok.mpr ⟨table, next, found, applied, rfl⟩
  simp [perform, Session.commit, committed, bind, Except.bind, pure, Except.pure]

/-- A change that is refused changes nothing. -/
theorem perform_of_refused {error : StoreError} (refused : table.apply change = .error error) :
    perform entity store ⟨change, done⟩ = .refused store (.ofStore entity.name error) := by
  have refusedCommit := Store.commit_singleton_eq_error found refused
  simp [perform, Session.commit, refusedCommit, bind, Except.bind]

end

/-- A planned change is settled if what it writes can be answered with. -/
private theorem settled_carryOut (holds : HoldsCatalogue store) (member : entity ∈ catalogue)
    {plan : Except RequestError Work} {method : Method}
    {finish : List Row → Except RequestError α} (planned : NeverInternal plan)
    (kind : ∀ work, plan = .ok work → methodOf work.change = method)
    (finishes : ∀ {change : Change} {table next : Table} {written : List Row},
      methodOf change = method → HoldsCatalogue (store.put next) →
      (store.put next).find? entity.table = some next → next.spec = entity.spec →
      table.apply change = .ok (next, written) → ∃ answer, finish written = .ok answer) :
    Settled store entity method ((carryOut entity store plan).andThen finish) := by
  cases plan with
  | error error => exact .refused [] (planned error rfl)
  | ok work =>
      obtain ⟨table, found, sameSpec⟩ := holds.find? member
      cases applied : table.apply work.change with
      | error error =>
          rw [carryOut, perform_of_refused found work.done applied]
          exact .refused [] (ofClient_of_apply applied entity.name)
      | ok changed =>
          obtain ⟨next, written⟩ := changed
          have committed : store.commit entity.table [work.change] = .ok (store.put next, written) :=
            Store.commit_singleton_eq_ok.mpr ⟨table, next, found, applied, rfl⟩
          have keptSpec : next.spec = table.spec := (Table.step_of_apply applied).spec_eq
          have foundNext : (store.put next).find? entity.table = some next :=
            Store.find?_put_self found (keptSpec ▸ Store.name_of_find? found)
          obtain ⟨answer, finished⟩ := finishes (kind work rfl) (holds.commit committed) foundNext
            (keptSpec.trans sameSpec) applied
          have outcome : (carryOut entity store (.ok work)).andThen finish =
              ⟨.ok answer, store.put next, [.committed entity.table 1, work.done]⟩ := by
            rw [carryOut, perform_of_applied found work.done applied]
            simp [Outcome.andThen, Except.bind, finished]
          rw [outcome]
          exact .done answer _ found keptSpec (kind work rfl ▸ (rowChange_of_apply applied).1)

/-- The row that a change wrote decodes. -/
private theorem exists_writtenRecord (member : entity ∈ catalogue) (clock : Clock)
    {change : Change} {table next : Table} {written : List Row}
    (kept : methodOf change ≠ .delete) (holds : HoldsCatalogue store)
    (found : store.find? entity.table = some next)
    (applied : table.apply change = .ok (next, written)) :
    ∃ record, writtenRecord entity clock written = .ok record := by
  obtain ⟨new, inTable, rfl⟩ := (rowChange_of_apply applied).2 kept
  exact exists_ofRow member (holds.rowHolds member found inTable) clock.now

/-! ## Reading operations -/

/-- Rows are fetched for every query that concerns an entity, in the form it describes. -/
private theorem exists_fetch (holds : HoldsCatalogue store) (member : entity ∈ catalogue)
    {query : Query} (concerns : Concerns query entity) (offset : Nat) (limit : Option Nat) :
    ∃ rows, store.fetch query offset limit = .ok rows ∧ ∀ row ∈ rows, entity.spec.Holds row := by
  obtain ⟨table, found, sameSpec⟩ := holds.find? member
  have known : table.Knows query :=
    fun field named => sameSpec ▸ column?_isSome (concerns.fields field named)
  obtain ⟨all, part⟩ := Store.fetch_of_find? (concerns.table ▸ found) known offset
  obtain ⟨rows, fetched, selected⟩ : ∃ rows, store.fetch query offset limit = .ok rows ∧
      rows ⊆ table.select query := by
    cases limit with
    | none => exact ⟨_, all, List.drop_subset _ _⟩
    | some most => exact ⟨_, part most, List.Subset.trans (List.take_subset _ _) (List.drop_subset _ _)⟩
  refine ⟨rows, fetched, fun row inRows => ?_⟩
  obtain ⟨stored, inTable, rfl⟩ := Store.mem_select (selected inRows)
  exact holds.rowHolds member found inTable

private theorem exists_count (holds : HoldsCatalogue store) (member : entity ∈ catalogue)
    {query : Query} (concerns : Concerns query entity) : ∃ total, store.count query = .ok total := by
  obtain ⟨table, found, sameSpec⟩ := holds.find? member
  exact ⟨_, Store.count_of_find? (concerns.table ▸ found) fun field named =>
    sameSpec ▸ column?_isSome (concerns.fields field named)⟩

/-- A row that is looked up by an identifier is missing or in the form that the entity describes. -/
theorem findRow_spec (holds : HoldsCatalogue store) (member : entity ∈ catalogue) (id : String) :
    NeverInternal (findRow entity store id) ∧
      ∀ row, findRow entity store id = .ok row → entity.spec.Holds row := by
  unfold findRow
  have asked := neverInternal_identifierQuery entity id
  cases built : identifierQuery entity id with
  | error error =>
      exact ⟨neverInternal_error (asked error built), fun row impossible => nomatch impossible⟩
  | ok query =>
      have concerns := concerns_identifierQuery (fun name => hasField_of_mem_key member) built
      obtain ⟨rows, fetched, held⟩ := exists_fetch holds member concerns 0 (some 1)
      simp only [fetched, internally, Except.mapError, bind, Except.bind]
      cases rows with
      | nil => exact ⟨neverInternal_error nofun, fun row impossible => nomatch impossible⟩
      | cons first others =>
          refine ⟨neverInternal_ok _, fun row same => ?_⟩
          cases same
          exact held first List.mem_cons_self

theorem neverInternal_read (holds : HoldsCatalogue store) (member : entity ∈ catalogue)
    (clock : Clock) (id : String) : NeverInternal (read entity store clock id) := by
  obtain ⟨found, held⟩ := findRow_spec holds member id
  exact neverInternal_bind found fun row looked =>
    neverInternal_of_exists (exists_ofRow member (held row looked) clock.now)

/-- A page of a query that concerns an entity is refused by the client's fault or has rows in the form
that the entity describes. -/
theorem paginate_spec (holds : HoldsCatalogue store) (member : entity ∈ catalogue) {query : Query}
    (concerns : Concerns query entity) (page limit : Nat) :
    NeverInternal (paginate store query page limit) ∧
      ∀ rows, paginate store query page limit = .ok rows →
        ∀ row ∈ rows.items, entity.spec.Holds row := by
  obtain ⟨total, counted⟩ := exists_count holds member concerns
  obtain ⟨items, fetched, held⟩ :=
    exists_fetch holds member concerns (pageOffset page limit) (some limit)
  unfold paginate
  simp only [counted, fetched, internally, Except.mapError]
  split
  · exact ⟨neverInternal_error nofun, fun rows impossible => nomatch impossible⟩
  · simp only [bind, Except.bind]
    split
    · exact ⟨neverInternal_error nofun, fun rows impossible => nomatch impossible⟩
    · refine ⟨neverInternal_ok _, fun rows same => ?_⟩
      cases same
      exact held

theorem store_list (entity : Entity) (store : Store) (limits : PageLimits) (clock : Clock)
    (params : ListParams) : (list entity store limits clock params).store = store := by
  unfold list
  split
  · rfl
  · split
    · rfl
    · split <;> rfl

/-- Listing never meets a fault of the store. -/
theorem neverInternal_list (holds : HoldsCatalogue store) (member : entity ∈ catalogue)
    (limits : PageLimits) (clock : Clock) (params : ListParams) :
    NeverInternal (list entity store limits clock params).answer := by
  have resolved := neverInternal_resolve params limits
  have queried := neverInternal_buildQuery entity params.filter params.sort
  unfold list
  split
  case h_1 error refused => exact neverInternal_error (resolved error refused)
  case h_2 page limit _ =>
      split
      case h_1 error refused => exact neverInternal_error (queried error refused)
      case h_2 query built =>
          obtain ⟨paged, held⟩ :=
            paginate_spec holds member (concerns_buildQuery built) page limit
          split
          case h_1 error refused => exact neverInternal_error (paged error refused)
          case h_2 rows answered =>
              have decodes : ∀ row ∈ rows.items, ∃ record, entity.ofRow clock.now row = .ok record :=
                fun row inItems => exists_ofRow member (held rows answered row inItems) clock.now
              obtain ⟨records, decodedAll⟩ := exists_mapM_eq_ok.mpr decodes
              exact neverInternal_of_exists ⟨_, map_eq_ok.mpr ⟨records, decodedAll, rfl⟩⟩

/-- What a list is answered with does not hang on the time. -/
theorem answer_list_eq (holds : HoldsCatalogue store) (member : entity ∈ catalogue)
    (limits : PageLimits) (clock other : Clock) (params : ListParams) :
    (list entity store limits clock params).answer =
      (list entity store limits other params).answer := by
  unfold list
  split
  case h_1 => rfl
  case h_2 page limit _ =>
      split
      case h_1 => rfl
      case h_2 query built =>
          obtain ⟨-, held⟩ := paginate_spec holds member (concerns_buildQuery built) page limit
          split
          case h_1 => rfl
          case h_2 rows answered =>
              have sameRecord : ∀ row ∈ rows.items,
                  entity.ofRow clock.now row = entity.ofRow other.now row := by
                intro row inItems
                obtain ⟨record, -, decodes⟩ := exists_record member (held rows answered row inItems)
                rw [decodes, decodes]
              exact congrArg (fun items => Except.map rows.withItems items)
                (mapM_congr sameRecord)

theorem store_browse (store : Store) (limits : PageLimits) (clock : Clock) (id : String)
    (query : List (String × String)) : (browse store limits clock id query).store = store := by
  unfold browse
  split
  · rfl
  · split
    · rfl
    · exact store_list movie store limits clock _

/-- Browsing never meets a fault of the store. -/
theorem neverInternal_browse (holds : HoldsCatalogue store) (limits : PageLimits) (clock : Clock)
    (id : String) (query : List (String × String)) :
    NeverInternal (browse store limits clock id query).answer := by
  have inCatalogue : movieSection ∈ catalogue := by simp [catalogue]
  have found := neverInternal_read holds inCatalogue clock id
  have asked := neverInternal_ofPairs query
  unfold browse
  split
  case h_1 error refused => exact neverInternal_error (found error refused)
  case h_2 record _ =>
      split
      case h_1 error refused => exact neverInternal_error (asked error refused)
      case h_2 params _ => exact neverInternal_list holds (by simp [catalogue]) limits clock _

/-! ## Create, update and delete -/

/-- Creating appends one row or is refused by the client's fault. -/
theorem settled_create (holds : HoldsCatalogue store) (member : entity ∈ catalogue) (clock : Clock)
    (body : Json) : Settled store entity .post (create entity store clock body) := by
  refine settled_carryOut holds member ?_ ?_ ?_
  · exact neverInternal_bind (neverInternal_payloadMembers entity body) fun members _ =>
      neverInternal_bind (neverInternal_ofPayload entity clock.now members) fun _ _ =>
        neverInternal_ok _
  · intro work planned
    obtain ⟨members, -, rest⟩ := bind_eq_ok.mp planned
    obtain ⟨record, -, built⟩ := bind_eq_ok.mp rest
    cases built
    rfl
  · intro change table next written kind after found _ applied
    exact exists_writtenRecord member clock (kind ▸ nofun) after found applied

/-- Updating replaces one row in place or is refused by the client's fault. -/
theorem settled_update (holds : HoldsCatalogue store) (member : entity ∈ catalogue) (clock : Clock)
    (id : String) (body : Json) :
    Settled store entity .put (update entity store clock id body) := by
  obtain ⟨looked, held⟩ := findRow_spec holds member id
  have decodes (row : Row) (found : findRow entity store id = .ok row) :=
    exists_ofRow member (held row found) clock.now
  refine settled_carryOut holds member ?_ ?_ ?_
  · exact neverInternal_bind (neverInternal_payloadMembers entity body) fun _ _ =>
      neverInternal_bind looked fun row found =>
        neverInternal_bind (neverInternal_of_exists (decodes row found)) fun _ _ =>
          neverInternal_bind (neverInternal_ofPayload entity clock.now _) fun _ _ =>
            neverInternal_ok _
  · intro work planned
    obtain ⟨changes, -, rest⟩ := bind_eq_ok.mp planned
    obtain ⟨row, -, rest⟩ := bind_eq_ok.mp rest
    obtain ⟨current, -, rest⟩ := bind_eq_ok.mp rest
    obtain ⟨record, -, built⟩ := bind_eq_ok.mp rest
    cases built
    rfl
  · intro change table next written kind after found _ applied
    exact exists_writtenRecord member clock (kind ▸ nofun) after found applied

/-- Deleting removes one row or is refused by the client's fault. -/
theorem settled_delete (holds : HoldsCatalogue store) (member : entity ∈ catalogue) (id : String) :
    Settled store entity .delete (delete entity store id) := by
  obtain ⟨looked, -⟩ := findRow_spec holds member id
  refine settled_carryOut holds member ?_ ?_ ?_
  · exact neverInternal_bind looked fun _ _ => neverInternal_ok _
  · intro work planned
    obtain ⟨row, -, built⟩ := bind_eq_ok.mp planned
    cases built
    rfl
  · intro change table next written kind after found sameSpec applied
    exact ⟨(), rfl⟩

end MovieCatalogue.Endpoint

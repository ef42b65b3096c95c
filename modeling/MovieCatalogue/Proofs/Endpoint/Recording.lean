import MovieCatalogue.Proofs.Endpoint.Agreement
import MovieCatalogue.Proofs.Storage.NextKey

/-!
Contract: requests that are recorded.

Owns: `LastNumber`, the largest number in the request log; that recording a request appends
one record under the next number; and that a run of requests which are not about the
request log is answered in the same way with and without recording, and leaves the same
tables but for one record of each request, in order.
Does not own: requests that are about the request log.
-/

namespace MovieCatalogue.Endpoint

open MovieCatalogue.Number MovieCatalogue.Record MovieCatalogue.Refusal MovieCatalogue.Selection
  MovieCatalogue.Storage

/-! ## Numbers -/

/-- The largest number in the request log, zero before there is any. -/
structure LastNumber (rows : List StoredRow) (last : Int) : Prop where
  bound : ∀ row ∈ rows, ∀ number, valueAt row.cells "id" = .int64 number → number.toInt ≤ last
  attained : rows = [] ∧ last = 0 ∨
    ∃ row ∈ rows, ∃ number : Int64, valueAt row.cells "id" = .int64 number ∧ number.toInt = last

theorem exists_number {row : Row} (holds : requestLog.spec.Holds row) :
    ∃ number, valueAt row "id" = .int64 number := by
  have member : requestLog ∈ catalogue := by simp [catalogue]
  have inSpec : (⟨"id", .integer, false⟩ : Column) ∈ requestLog.spec.columns := List.mem_cons_self
  have stores := (holds.valueAt (nodup_columnNames member) inSpec).stores_of_strict rfl
  generalize valueAt row "id" = value at stores
  cases stores with
  | integer number => exact ⟨number, rfl⟩

namespace LastNumber

variable {rows : List StoredRow} {last : Int}

theorem largest_eq {table : Table} (lastNumber : LastNumber table.rows last)
    (numbered : ∀ row ∈ table.rows, ∃ number, valueAt row.cells "id" = .int64 number) :
    table.largest "id" = last := by
  refine Table.largest_eq_iff.mpr ⟨fun key inKeys => ?_, ?_⟩
  · obtain ⟨row, member, isInteger⟩ := List.mem_filterMap.mp inKeys
    obtain ⟨number, here⟩ := numbered row member
    rw [here] at isInteger
    cases isInteger
    exact lastNumber.bound row member number here
  · rcases lastNumber.attained with ⟨empty, zero⟩ | ⟨row, member, number, here, attained⟩
    · exact .inl ⟨by rw [Table.keys, empty]; rfl, zero⟩
    · refine .inr (List.mem_filterMap.mpr ⟨row, member, ?_⟩)
      rw [here]
      exact congrArg some attained

theorem toInt_next (lastNumber : LastNumber rows last) (fits : last + 1 ≤ maxInt64) :
    (Int64.ofInt (last + 1)).toInt = last + 1 := by
  have least : -2 ^ 63 ≤ last := by
    rcases lastNumber.attained with ⟨-, zero⟩ | ⟨_, -, number, -, attained⟩
    · omega
    · exact attained ▸ Int64.le_toInt number
  exact Int64.toInt_ofInt_of_le (by omega) (by simp only [maxInt64] at fits; omega)

theorem append (lastNumber : LastNumber rows last) {new : StoredRow} {number : Int64}
    (here : valueAt new.cells "id" = .int64 number) (next : number.toInt = last + 1) :
    LastNumber (rows ++ [new]) (last + 1) := by
  refine ⟨fun row member other numbered => ?_, .inr ⟨new, by simp, number, here, next⟩⟩
  rcases List.mem_append.mp member with earlier | isNew
  · have below := lastNumber.bound row earlier other numbered
    omega
  · cases List.mem_singleton.mp isNew
    cases here.symm.trans numbered
    exact Int.le_of_eq next

/-- No row of the log has the number after the last one. -/
theorem not_collide (lastNumber : LastNumber rows last) {new : Row} {number : Int64}
    (here : valueAt new "id" = .int64 number) (next : number.toInt = last + 1) {held : StoredRow}
    (member : held ∈ rows) (numbered : ∃ number, valueAt held.cells "id" = .int64 number) :
    ¬ Collide requestLog.key new held.cells := by
  intro collide
  obtain ⟨other, otherHere⟩ := numbered
  have same := collide.int64_eq List.mem_cons_self here otherHere
  have below := lastNumber.bound held member other otherHere
  omega

end LastNumber

/-! ## One record -/

/-- The record of an answered request under a number. -/
def logRecord (number : Int64) (clock : Clock) (request : Request) (response : Response) :
    requestLog.Records :=
  (number, request.path, request.method.name, some (natText response.status), clock.started,
    some clock.ended, request.token.isSome, ())

def grown (table : Table) (cells : Row) : Table :=
  { table with
    rows := table.rows ++ [⟨table.nextRowid, cells⟩]
    nextRowid := table.nextRowid + 1 }

/-- An answered request is recorded under the number after the last one. -/
theorem record_eq {reply : Reply} {table : Table} {last : Int} (holds : HoldsCatalogue reply.store)
    (found : reply.store.find? requestLog.table = some table)
    (lastNumber : LastNumber table.rows last) (fits : last + 1 ≤ maxInt64) (clock : Clock)
    (request : Request) :
    record clock request reply =
      ⟨reply.response,
        reply.store.put (grown table (requestLog.toRow
          (logRecord (Int64.ofInt (last + 1)) clock request reply.response))),
        reply.events ++ [.committed requestLog.table 1]⟩ := by
  have member : requestLog ∈ catalogue := by simp [catalogue]
  obtain ⟨sameSpec, -⟩ := holds.wellFormed member found
  have numbered : ∀ row ∈ table.rows, ∃ number, valueAt row.cells "id" = .int64 number :=
    fun row inTable => exists_number (holds.rowHolds member found inTable)
  have integerKey : table.spec.integerKey? = some "id" := by
    rw [sameSpec]
    rfl
  have normal : normalize table.spec
      (Fields.put "id" (.int64 (Int64.ofInt (table.largest "id" + 1)))
        (logEntry clock request reply.response)) =
      .ok (requestLog.toRow (logRecord (Int64.ofInt (last + 1)) clock request reply.response)) := by
    rw [sameSpec, lastNumber.largest_eq numbered]
    rfl
  have fresh : ∀ constraint ∈ table.spec.constraints, ∀ held ∈ table.rows,
      ¬ Collide constraint (requestLog.toRow
        (logRecord (Int64.ofInt (last + 1)) clock request reply.response)) held.cells := by
    rw [sameSpec]
    intro constraint inSpec held inTable
    cases List.mem_singleton.mp inSpec
    exact lastNumber.not_collide rfl (lastNumber.toInt_next fits) inTable (numbered held inTable)
  have inserted := Table.insertNextKey_eq_ok.mpr
    ⟨"id", integerKey, Table.insert_eq_ok.mpr ⟨normal, fresh, rfl⟩⟩
  have applied : table.apply (.insertNextKey (logEntry clock request reply.response)) =
      .ok (grown table (requestLog.toRow
        (logRecord (Int64.ofInt (last + 1)) clock request reply.response)), [_]) :=
    map_eq_ok.mpr ⟨_, inserted, rfl⟩
  have committed := Store.commit_singleton_eq_ok.mpr ⟨table, _, found, applied, rfl⟩
  simp only [record, Session.commit, committed, bind, Except.bind, pure, Except.pure]
  rfl

/-! ## A run -/

/-- A request with the readings of the clock while it is answered. -/
structure Arrival where
  clock : Clock
  request : Request

/-- The responses to requests that arrive one after the other, and the store after the last. -/
def dispatchAll (service : Service) (store : Store) : List Arrival → List Response × Store
  | [] => ([], store)
  | arrival :: arrivals =>
    let reply := dispatch service store arrival.clock arrival.request
    let rest := dispatchAll service reply.store arrivals
    (reply.response :: rest.1, rest.2)

/-- The entity on whose records an operation works. -/
def Action.entity? : Action → Option Entity
  | .operators | .browse _ => none
  | .list entity | .create entity | .read entity _ | .update entity _ | .delete entity _ =>
    some entity

/-- A request asks for an operation on the records of an entity. -/
def Request.AsksFor (request : Request) (entity : Entity) : Prop :=
  ∃ action, Action.of? .standard request.method (segments request.path) = some action ∧
    action.entity? = some entity

/-- A request does not ask for an entity if it asks for none of this name. -/
theorem Request.not_asksFor {request : Request} {entity : Entity}
    (other : ((Action.of? .standard request.method (segments request.path)).bind
      Action.entity?).map Entity.name ≠ some entity.name) : ¬ request.AsksFor entity := by
  rintro ⟨action, asked, works⟩
  rw [asked, Option.bind_some, works] at other
  exact other rfl

theorem eq_requestLog_of_table {entity : Entity} (member : entity ∈ catalogue)
    (named : entity.table = requestLog.table) : entity = requestLog := by
  simp only [catalogue, List.mem_cons, List.not_mem_nil, or_false] at member
  rcases member with rfl | rfl | rfl | rfl | rfl | rfl | rfl | rfl | rfl
  case inr.inr.inr.inr.inr.inr.inr.inr => rfl
  all_goals exact absurd named (by decide)

theorem table_notMem_of_not_asksFor {request : Request} (foreign : ¬ request.AsksFor requestLog)
    {action : Action}
    (asked : Action.of? .standard request.method (segments request.path) = some action) :
    requestLog.table ∉ action.tables := by
  have apart {entity : Entity} (member : entity ∈ catalogue)
      (works : action.entity? = some entity) : requestLog.table ∉ [entity.table] := by
    intro inTables
    have named := (List.mem_singleton.mp inTables).symm
    rw [eq_requestLog_of_table member named] at works
    exact foreign ⟨action, asked, works⟩
  rcases Action.of?_cases asked with
    ⟨-, rfl⟩ | ⟨-, id, rfl⟩ | ⟨route, entity, -, served, onAll | ⟨id, onOne⟩⟩
  · exact List.not_mem_nil
  · simp only [Action.tables]
    decide
  · have member := mem_catalogue_of_entity? served
    cases method : request.method <;> rw [method] at onAll <;> cases onAll
    · exact apart member rfl
    · exact apart member rfl
  · have member := mem_catalogue_of_entity? served
    cases method : request.method <;> rw [method] at onOne <;> cases onOne
    · exact apart member rfl
    · exact apart member rfl
    · exact apart member rfl

/-- A request that is not about the request log leaves the number after the last one, and is
recorded under it. -/
theorem record_answer {store : Store} {table : Table} {last : Int} (holds : HoldsCatalogue store)
    (found : store.find? requestLog.table = some table) (lastNumber : LastNumber table.rows last)
    {service : Service} (standard : service.registry = .standard) (clock : Clock) {request : Request}
    (foreign : ¬ request.AsksFor requestLog) (fits : last + 1 ≤ maxInt64) :
    let reply := answer service store clock request
    reply.store.find? requestLog.table = some table ∧
      record clock request reply =
        ⟨reply.response,
          reply.store.put (grown table (requestLog.toRow
            (logRecord (Int64.ofInt (last + 1)) clock request reply.response))),
          reply.events ++ [.committed requestLog.table 1]⟩ := by
  intro reply
  have apart : ∀ action, Action.of? service.registry request.method (segments request.path) =
      some action → requestLog.table ∉ action.tables := by
    rw [standard]
    exact fun action asked => table_notMem_of_not_asksFor foreign asked
  have holdsAfter : HoldsCatalogue reply.store :=
    holdsCatalogue_dispatch holds { service with recording := false } clock request
  have foundAfter := (find?_answer apart store clock).trans found
  exact ⟨foundAfter, record_eq holdsAfter foundAfter lastNumber fits clock request⟩

/-- A store in which requests are recorded, beside one in which they are not. -/
structure Beside (recorded quiet : Store) (table : Table) (last : Int) : Prop where
  holds : HoldsCatalogue recorded
  agree : Store.AgreeBut requestLog.table recorded quiet
  found : recorded.find? requestLog.table = some table
  lastNumber : LastNumber table.rows last

/-- A request keeps the stores beside each other, and one record is added. -/
theorem Beside.dispatch {recorded quiet : Store} {table : Table} {last : Int}
    (beside : Beside recorded quiet table last) {service : Service}
    (standard : service.registry = .standard) (clock : Clock) {request : Request}
    (foreign : ¬ request.AsksFor requestLog) (fits : last + 1 ≤ maxInt64) :
    let reply := dispatch { service with recording := true } recorded clock request
    let other := dispatch { service with recording := false } quiet clock request
    reply.response = other.response ∧
      other.store.find? requestLog.table = quiet.find? requestLog.table ∧
      Beside reply.store other.store (grown table (requestLog.toRow
        (logRecord (Int64.ofInt (last + 1)) clock request reply.response))) (last + 1) := by
  intro reply other
  have apart : ∀ action, Action.of? service.registry request.method (segments request.path) =
      some action → requestLog.table ∉ action.tables := by
    rw [standard]
    exact fun action asked => table_notMem_of_not_asksFor foreign asked
  have answered : (answer service recorded clock request).InStep
      (Store.AgreeBut requestLog.table) (answer service quiet clock request) :=
    (agreement_agreeBut requestLog.table).answer beside.agree
      (fun action asked name inTables same => apart action asked (same ▸ inTables)) clock
  have isReply : reply = record clock request (answer service recorded clock request) := rfl
  have isOther : other = answer service quiet clock request := rfl
  have holdsAfter : HoldsCatalogue reply.store :=
    holdsCatalogue_dispatch beside.holds { service with recording := true } clock request
  obtain ⟨found, recordedAs⟩ :=
    record_answer beside.holds beside.found beside.lastNumber standard clock foreign fits
  have named : table.spec.name = requestLog.table := Store.name_of_find? found
  rw [← isReply] at recordedAs
  rw [recordedAs] at holdsAfter ⊢
  rw [isOther]
  refine ⟨answered.response, find?_answer apart quiet clock, holdsAfter,
    answered.store.put_hidden named, Store.find?_put_self found named, ?_⟩
  exact beside.lastNumber.append rfl (beside.lastNumber.toInt_next fits)

/-- Rows that record requests with their responses, in order and under consecutive numbers. -/
inductive Logged : Int → List Arrival → List Response → List StoredRow → Prop
  | nil (first : Int) : Logged first [] [] []
  | cons {first : Int} {arrival : Arrival} {arrivals : List Arrival} {response : Response}
      {responses : List Response} {row : StoredRow} {rows : List StoredRow} {number : Int64}
      (numbered : number.toInt = first)
      (cells : row.cells =
        requestLog.toRow (logRecord number arrival.clock arrival.request response))
      (others : Logged (first + 1) arrivals responses rows) :
      Logged first (arrival :: arrivals) (response :: responses) (row :: rows)

theorem Logged.length_eq {first : Int} {arrivals : List Arrival} {responses : List Response}
    {rows : List StoredRow} (logged : Logged first arrivals responses rows) :
    rows.length = arrivals.length := by
  induction logged with
  | nil first => rfl
  | cons numbered cells others inductionHypothesis => simp [inductionHypothesis]

/-- Each record has the number that follows that of the record before. -/
theorem Logged.numbered {first : Int} {arrivals : List Arrival} {responses : List Response}
    {rows : List StoredRow} (logged : Logged first arrivals responses rows) {place : Nat}
    {row : StoredRow} (here : rows[place]? = some row) :
    ∃ number : Int64, valueAt row.cells "id" = .int64 number ∧ number.toInt = first + place := by
  induction logged generalizing place with
  | nil first => cases here
  | @cons first _ _ _ _ _ _ number numbered cells others inductionHypothesis =>
      cases place with
      | zero =>
          cases here
          refine ⟨number, by rw [cells]; rfl, ?_⟩
          rw [numbered, Int.natCast_zero, Int.add_zero]
      | succ place =>
          obtain ⟨number, found, later⟩ := inductionHypothesis here
          refine ⟨number, found, ?_⟩
          rw [later, Int.natCast_add, Int.natCast_one]
          omega

/-- A run keeps the stores beside each other, and one record of each request is added. -/
theorem Beside.dispatchAll {recorded quiet : Store} {table : Table} {last : Int}
    (beside : Beside recorded quiet table last) {service : Service}
    (standard : service.registry = .standard) {arrivals : List Arrival}
    (foreign : ∀ arrival ∈ arrivals, ¬ arrival.request.AsksFor requestLog)
    (fits : last + arrivals.length ≤ maxInt64) :
    let run := dispatchAll { service with recording := true } recorded arrivals
    let other := dispatchAll { service with recording := false } quiet arrivals
    run.1 = other.1 ∧ other.2.find? requestLog.table = quiet.find? requestLog.table ∧
      ∃ after logged, Beside run.2 other.2 after (last + arrivals.length) ∧
        after.rows = table.rows ++ logged ∧ Logged (last + 1) arrivals run.1 logged := by
  -- The induction carries both stores along: after each request they are beside each other again,
  -- with a table that is grown by one row and a last number that is greater by one.
  induction arrivals generalizing recorded quiet table last with
  | nil =>
      refine ⟨rfl, rfl, table, [], ?_, (List.append_nil _).symm, .nil _⟩
      rw [List.length_nil, Int.natCast_zero, Int.add_zero]
      exact beside
  | cons arrival arrivals inductionHypothesis =>
      rw [List.forall_mem_cons] at foreign
      rw [List.length_cons, Int.natCast_add, Int.natCast_one] at fits ⊢
      have fitsFirst : last + 1 ≤ maxInt64 := by omega
      obtain ⟨sameResponse, sameLog, next⟩ :=
        beside.dispatch standard arrival.clock foreign.1 fitsFirst
      obtain ⟨sameResponses, sameLogs, after, logged, atEnd, rows, others⟩ :=
        inductionHypothesis next foreign.2 (by omega)
      have counted : last + 1 + (arrivals.length : Int) = last + (arrivals.length + 1) := by omega
      let response := (Endpoint.dispatch { service with recording := true } recorded
        arrival.clock arrival.request).response
      let new : StoredRow := ⟨table.nextRowid, requestLog.toRow
        (logRecord (Int64.ofInt (last + 1)) arrival.clock arrival.request response)⟩
      have isNew : Logged (last + 1) (arrival :: arrivals) (response :: _) (new :: logged) :=
        .cons (beside.lastNumber.toInt_next fitsFirst) rfl others
      refine ⟨?_, sameLogs.trans sameLog, after, new :: logged, counted ▸ atEnd, ?_, isNew⟩
      · rw [Endpoint.dispatchAll, Endpoint.dispatchAll]
        exact congrArg₂ List.cons sameResponse sameResponses
      · rw [rows, grown, List.append_assoc]
        rfl

/--
Requests that do not ask for the request log are answered in the same way with and without
recording, and leave the same tables but for the request log. Without recording this one
stays as it is. With recording one row is appended for each request, in order, with its
path, method, status and whether it had a token; the numbers of these rows follow the
largest one that was there before.
-/
theorem dispatchAll_recording {store : Store} (reachable : Reachable store) {service : Service}
    (standard : service.registry = .standard) {table : Table}
    (found : store.find? requestLog.table = some table) {last : Int}
    (lastNumber : LastNumber table.rows last) {arrivals : List Arrival}
    (foreign : ∀ arrival ∈ arrivals, ¬ arrival.request.AsksFor requestLog)
    (fits : last + arrivals.length ≤ maxInt64) :
    let recorded := dispatchAll { service with recording := true } store arrivals
    let quiet := dispatchAll { service with recording := false } store arrivals
    recorded.1 = quiet.1 ∧
      (∀ name, name ≠ requestLog.table → recorded.2.find? name = quiet.2.find? name) ∧
      quiet.2.find? requestLog.table = some table ∧
      ∃ after logged, recorded.2.find? requestLog.table = some after ∧
        after.rows = table.rows ++ logged ∧ logged.length = arrivals.length ∧
        Logged (last + 1) arrivals recorded.1 logged ∧
        ∀ (place : Nat) (row : StoredRow), logged[place]? = some row →
          ∃ number : Int64, valueAt row.cells "id" = .int64 number ∧
            number.toInt = last + 1 + place := by
  have beside : Beside store store table last :=
    ⟨reachable.holdsCatalogue, fun _ _ => rfl, found, lastNumber⟩
  obtain ⟨sameResponses, sameLog, after, logged, atEnd, rows, records⟩ :=
    beside.dispatchAll standard foreign fits
  exact ⟨sameResponses, atEnd.agree, sameLog.trans found, after, logged, atEnd.found, rows,
    records.length_eq, records, fun place row here => records.numbered here⟩

/-- A genre is added and a path leads nowhere, after a request that was recorded as the seventh. -/
theorem dispatchAll_recording_two :
    let clock : Clock := ⟨0, .zero, .zero, 0⟩
    let add : Request :=
      { method := .post, path := "/genres", body := some (.object [("id", .string "Drama")]),
        token := some "secret" }
    let lost : Request := { method := .get, path := "/nowhere" }
    let seventh : Row := requestLog.toRow (logRecord 7 clock lost .routeNotFound)
    let table : Table := ⟨requestLog.spec, [⟨1, seventh⟩], 2⟩
    let arrivals : List Arrival := [⟨clock, add⟩, ⟨clock, lost⟩]
    let recorded := dispatchAll { recording := true } (emptyStore.put table) arrivals
    let quiet := dispatchAll {} (emptyStore.put table) arrivals
    recorded.1.map Response.status = [200, 404] ∧ recorded.1 = quiet.1 ∧
      recorded.2.find? "genre" = quiet.2.find? "genre" ∧
      ∃ after logged, recorded.2.find? "request" = some after ∧
        after.rows = table.rows ++ logged ∧ Logged 8 arrivals recorded.1 logged := by
  intro clock add lost seventh table arrivals recorded quiet
  have inserted : emptyStore.commit "request" [.insert seventh] =
      .ok (emptyStore.put table, [seventh]) :=
    Store.commit_eq_ok.mpr ⟨⟨requestLog.spec, [], 1⟩, table, rfl, rfl, rfl⟩
  have lastNumber : LastNumber table.rows 7 := by
    refine ⟨fun row member number here => ?_, .inr ⟨⟨1, seventh⟩, by simp [table], 7, rfl, rfl⟩⟩
    cases List.mem_singleton.mp member
    cases here
    decide
  have foreign : ∀ arrival ∈ arrivals, ¬ arrival.request.AsksFor requestLog := by
    simp only [arrivals, List.forall_mem_cons, List.not_mem_nil, false_implies, implies_true, and_true]
    exact ⟨Request.not_asksFor (by decide +kernel), Request.not_asksFor (by decide +kernel)⟩
  obtain ⟨sameResponses, sameTables, -, after, logged, found, rows, -, records, -⟩ :=
    dispatchAll_recording (.committed .empty inserted) (rfl : ({} : Service).registry = .standard)
      rfl lastNumber foreign (by decide)
  exact ⟨by decide +kernel, sameResponses, sameTables "genre" (by decide), after, logged, found,
    rows, records⟩

end MovieCatalogue.Endpoint

import MovieCatalogue.Proofs.Endpoint.AnswerEvents
import MovieCatalogue.Proofs.Endpoint.Recording
import MovieCatalogue.Proofs.Lists

/-!
Contract: what a run of requests adds to the account.

Owns: `Exchange`, a request with its reply, and the exchanges of a run; that each of them tells of
one read if it answers a list or a section, of one change if it answers a creation, an update or a
deletion, and of one more change if it is recorded; when every request of a run is recorded; and
what the counters and the reports are after a run.
Does not own: what single events add; see `Proofs.Journal.Accounting`.
-/

namespace MovieCatalogue.Endpoint

open MovieCatalogue.Journal MovieCatalogue.Number MovieCatalogue.Record MovieCatalogue.Refusal
  MovieCatalogue.Selection MovieCatalogue.Storage

/-! ## Exchanges -/

/-- A request that arrived, with the reply to it. -/
structure Exchange where
  arrival : Arrival
  reply : Reply

/-- The exchanges of requests that arrive one after the other. -/
def exchanges (service : Service) (store : Store) : List Arrival → List Exchange
  | [] => []
  | arrival :: arrivals =>
    let reply := dispatch service store arrival.clock arrival.request
    ⟨arrival, reply⟩ :: exchanges service reply.store arrivals

namespace Exchange

/-- A list or a section was asked for and answered. -/
def isQuery (exchange : Exchange) : Bool :=
  exchange.arrival.request.asksForPage && exchange.reply.response.status == 200

/-- Such a query took as long as the threshold or longer. -/
def isSlow (policy : Policy) (exchange : Exchange) : Bool :=
  exchange.isQuery && decide (policy.slowAfter ≤ exchange.arrival.clock.elapsed)

/-- A creation, an update or a deletion was asked for and answered. -/
def isWrite (exchange : Exchange) : Bool :=
  exchange.arrival.request.isWriting && exchange.reply.response.status == 200

/-- The last event tells that the request could not be recorded. -/
def isUnrecorded (exchange : Exchange) : Bool :=
  match exchange.reply.events.getLast? with
  | some (.recordFailed _) => true
  | _ => false

end Exchange

/-- The request log has the largest number there is, so that no number is next. -/
def NumbersUsedUp (store : Store) : Prop :=
  ∃ table row, store.find? requestLog.table = some table ∧ row ∈ table.rows ∧
    valueAt row.cells "id" = .int64 Int64.maxValue

/-! ## One exchange -/

theorem exists_lastNumber {table : Table}
    (numbered : ∀ row ∈ table.rows, ∃ number, valueAt row.cells "id" = .int64 number) :
    LastNumber table.rows (table.largest "id") := by
  have isLargest := Table.largest_eq_iff.mp (Eq.refl (table.largest "id"))
  refine ⟨fun row member number here => ?_, ?_⟩
  · refine isLargest.bound _ (List.mem_filterMap.mpr ⟨row, member, ?_⟩)
    rw [here]
    rfl
  · rcases isLargest.attained with ⟨empty, zero⟩ | attained
    · refine .inl ⟨List.eq_nil_iff_forall_not_mem.mpr fun row member => ?_, zero⟩
      obtain ⟨number, here⟩ := numbered row member
      have inKeys : number.toInt ∈ table.keys "id" :=
        List.mem_filterMap.mpr ⟨row, member, by rw [here]; rfl⟩
      rw [empty] at inKeys
      cases inKeys
    · obtain ⟨row, member, isInteger⟩ := List.mem_filterMap.mp attained
      obtain ⟨number, here⟩ := numbered row member
      rw [here] at isInteger
      exact .inr ⟨row, member, number, here, Option.some.inj isInteger⟩

/-- Only behind the largest number there is no next one. -/
theorem numbersUsedUp_of_lastNumber {store : Store} {table : Table} {last : Int}
    (found : store.find? requestLog.table = some table) (lastNumber : LastNumber table.rows last)
    (exceeds : ¬ last + 1 ≤ maxInt64) : NumbersUsedUp store := by
  unfold maxInt64 at exceeds
  rcases lastNumber.attained with ⟨-, zero⟩ | ⟨row, member, number, here, attained⟩
  · omega
  · have most := Int64.toInt_lt number
    have largest : number = Int64.maxValue := Int64.toInt_inj.mp (by
      rw [Int64.toInt_maxValue]
      omega)
    exact ⟨table, row, found, member, largest ▸ here⟩

/-- A request is recorded, which is a change, unless there is no next number. -/
theorem record_cases {reply : Reply} (holds : HoldsCatalogue reply.store) (clock : Clock)
    (request : Request) :
    (∃ after, record clock request reply =
        ⟨reply.response, after, reply.events ++ [.committed requestLog.table 1]⟩) ∨
      ∃ error, record clock request reply =
        ⟨reply.response, reply.store, reply.events ++ [.recordFailed error]⟩ ∧
        NumbersUsedUp reply.store := by
  have member : requestLog ∈ catalogue := by simp [catalogue]
  obtain ⟨table, found, sameSpec⟩ := holds.find? member
  have lastNumber := exists_lastNumber fun row inTable =>
    exists_number (holds.rowHolds member found inTable)
  by_cases fits : table.largest "id" + 1 ≤ maxInt64
  · exact .inl ⟨_, record_eq holds found lastNumber fits clock request⟩
  · have usedUp := numbersUsedUp_of_lastNumber found lastNumber fits
    unfold record
    dsimp only
    split
    case h_1 after written events committed =>
        obtain ⟨outcome, -, built⟩ := bind_eq_ok.mp committed
        cases built
        exact .inl ⟨_, rfl⟩
    case h_2 error _ => exact .inr ⟨error, rfl, usedUp⟩

/-- What one exchange adds to the account: a read of its page, if it answers a list or a section;
a change, if it answers a creation, an update or a deletion; and one more change, if it is
recorded. -/
structure Exchange.Accounted (recording : Bool) (exchange : Exchange) : Prop where
  reads : List.Forall₂ (ReadAs exchange.arrival.clock)
    (if exchange.isQuery then [exchange.reply.response.body] else []) (reads exchange.reply.events)
  changes : changes exchange.reply.events + (if exchange.isUnrecorded then 1 else 0) =
    (if exchange.isWrite then 1 else 0) + if recording then 1 else 0
  recorded : exchange.isUnrecorded = true → recording = true ∧ NumbersUsedUp exchange.reply.store

theorem accounted_answer {store : Store} (holds : HoldsCatalogue store) {service : Service}
    (standard : service.registry = .standard) (arrival : Arrival) :
    let reply := answer service store arrival.clock arrival.request
    Exchange.isUnrecorded ⟨arrival, reply⟩ = false ∧ Exchange.Accounted false ⟨arrival, reply⟩ := by
  intro reply
  obtain ⟨told, changed⟩ := told_answer holds standard arrival.clock arrival.request
  have answered : Exchange.isUnrecorded ⟨arrival, reply⟩ = false := by
    simp [Exchange.isUnrecorded, reply, answer]
  refine ⟨answered, told, ?_,
    fun unrecorded => absurd (answered.symm.trans unrecorded) Bool.false_ne_true⟩
  rw [answered]
  exact changed

/-- Recording adds one event, which is no read, and one change unless there is no next number. -/
theorem Exchange.Accounted.record {arrival : Arrival} {reply : Reply}
    (accounted : Exchange.Accounted false ⟨arrival, reply⟩)
    (answered : Exchange.isUnrecorded ⟨arrival, reply⟩ = false)
    (holds : HoldsCatalogue reply.store) :
    Exchange.Accounted true ⟨arrival, Endpoint.record arrival.clock arrival.request reply⟩ := by
  have changed := accounted.changes
  rw [answered] at changed
  have recording := record_cases holds arrival.clock arrival.request
  rcases recording with ⟨after, recorded⟩ | ⟨error, recorded, usedUp⟩
  · rw [recorded]
    have isRecorded : Exchange.isUnrecorded ⟨arrival, reply.response, after,
        reply.events ++ [.committed requestLog.table 1]⟩ = false := by
      simp [Exchange.isUnrecorded]
    refine ⟨?_, ?_, fun unrecorded => absurd (isRecorded.symm.trans unrecorded) Bool.false_ne_true⟩
    · rw [reads_append]
      exact (List.append_nil _).symm ▸ accounted.reads
    · rw [isRecorded, changes_append]
      exact congrArg (· + 1) changed
  · rw [recorded]
    have isUnrecorded : Exchange.isUnrecorded ⟨arrival, reply.response, reply.store,
        reply.events ++ [.recordFailed error]⟩ = true := by
      simp [Exchange.isUnrecorded]
    refine ⟨?_, ?_, fun unrecorded => ⟨rfl, usedUp⟩⟩
    · rw [reads_append]
      exact (List.append_nil _).symm ▸ accounted.reads
    · rw [isUnrecorded, changes_append]
      exact congrArg (· + 1) changed

theorem accounted_dispatch {store : Store} (holds : HoldsCatalogue store) {service : Service}
    (standard : service.registry = .standard) (arrival : Arrival) :
    Exchange.Accounted service.recording
      ⟨arrival, dispatch service store arrival.clock arrival.request⟩ := by
  obtain ⟨answered, accounted⟩ := accounted_answer holds standard arrival
  unfold dispatch
  dsimp only
  split
  case isTrue recording =>
      rw [recording]
      exact accounted.record answered (holdsCatalogue_dispatch holds
        { service with recording := false } arrival.clock arrival.request)
  case isFalse quiet =>
      rw [Bool.not_eq_true] at quiet
      rw [quiet]
      exact accounted

/-! ## A run -/

/-- A run of requests that are not about the request log, behind whose last number there is one for
each of them. -/
structure HasNumbers (store : Store) (arrivals : List Arrival) : Prop where
  foreign : ∀ arrival ∈ arrivals, ¬ arrival.request.AsksFor requestLog
  enough : ∀ table last, store.find? requestLog.table = some table → LastNumber table.rows last →
    last + arrivals.length ≤ maxInt64

theorem map_arrival_exchanges (service : Service) (store : Store) (arrivals : List Arrival) :
    (exchanges service store arrivals).map Exchange.arrival = arrivals := by
  induction arrivals generalizing store with
  | nil => rfl
  | cons arrival arrivals inductionHypothesis =>
      exact congrArg (arrival :: ·) (inductionHypothesis _)

/-- Each exchange of a run is accounted for, since the store holds the catalogue after each of
them. -/
theorem accounted_exchanges {store : Store} (holds : HoldsCatalogue store) {service : Service}
    (standard : service.registry = .standard) (arrivals : List Arrival) :
    ∀ exchange ∈ exchanges service store arrivals, exchange.Accounted service.recording := by
  induction arrivals generalizing store with
  | nil => simp [exchanges]
  | cons arrival arrivals inductionHypothesis =>
      exact List.forall_mem_cons.mpr ⟨accounted_dispatch holds standard arrival, inductionHypothesis
        (holdsCatalogue_dispatch holds service arrival.clock arrival.request)⟩

/-- With numbers for all of its requests, a run records each of them. -/
theorem recorded_exchanges {store : Store} {table : Table} {last : Int} (holds : HoldsCatalogue store)
    (found : store.find? requestLog.table = some table) (lastNumber : LastNumber table.rows last)
    {service : Service} (standard : service.registry = .standard) {arrivals : List Arrival}
    (foreign : ∀ arrival ∈ arrivals, ¬ arrival.request.AsksFor requestLog)
    (fits : last + arrivals.length ≤ maxInt64) :
    ∀ exchange ∈ exchanges { service with recording := true } store arrivals,
      exchange.isUnrecorded = false := by
  -- The last number is greater by one after each request.
  induction arrivals generalizing store table last with
  | nil => simp [exchanges]
  | cons arrival arrivals inductionHypothesis =>
      rw [List.forall_mem_cons] at foreign
      rw [List.length_cons, Int.natCast_add, Int.natCast_one] at fits
      have fitsFirst : last + 1 ≤ maxInt64 := by omega
      obtain ⟨-, recorded⟩ :=
        record_answer holds found lastNumber standard arrival.clock foreign.1 fitsFirst
      have beside : Beside store store table last := ⟨holds, fun _ _ => rfl, found, lastNumber⟩
      obtain ⟨-, -, next⟩ := beside.dispatch standard arrival.clock foreign.1 fitsFirst
      rw [exchanges, List.forall_mem_cons]
      refine ⟨?_, inductionHypothesis next.holds next.found next.lastNumber foreign.2 (by omega)⟩
      have replied : dispatch { service with recording := true } store arrival.clock
          arrival.request = record arrival.clock arrival.request
            (answer service store arrival.clock arrival.request) := rfl
      rw [replied, recorded]
      simp [Exchange.isUnrecorded]

/-- No record of a run is missing if there are numbers for all of them, or none are asked for. -/
theorem countP_isUnrecorded {store : Store} (holds : HoldsCatalogue store) {service : Service}
    (standard : service.registry = .standard) {arrivals : List Arrival}
    (numbers : service.recording = true → HasNumbers store arrivals) :
    (exchanges service store arrivals).countP Exchange.isUnrecorded = 0 := by
  rw [List.countP_eq_zero]
  intro exchange member unrecorded
  have accounted := accounted_exchanges holds standard arrivals exchange member
  obtain ⟨recording, -⟩ := accounted.recorded unrecorded
  have numbers := numbers recording
  have isLog : requestLog ∈ catalogue := by simp [catalogue]
  obtain ⟨table, found, -⟩ := holds.find? isLog
  have lastNumber := exists_lastNumber fun row inTable =>
    exists_number (holds.rowHolds isLog found inTable)
  have recorded := recorded_exchanges holds found lastNumber standard numbers.foreign
    (numbers.enough table _ found lastNumber)
  rw [← recording] at recorded
  exact Bool.false_ne_true ((recorded exchange member).symm.trans unrecorded)

/-- All events of a run, in order. -/
def allEvents (run : List Exchange) : List Event :=
  run.flatMap (·.reply.events)

/-- An exchange tells of a read: it took as long as the clock says, and its page is answered. -/
def Exchange.Tells (exchange : Exchange) (read : PagedRead) : Prop :=
  ReadAs exchange.arrival.clock exchange.reply.response.body read

section

variable {recording : Bool} {run : List Exchange}
  (accounted : ∀ exchange ∈ run, exchange.Accounted recording)
include accounted

/-- The reads of a run are those of the answered lists and sections, in order. -/
theorem forall₂_reads_allEvents :
    List.Forall₂ Exchange.Tells (run.filter Exchange.isQuery) (reads (allEvents run)) := by
  induction run with
  | nil => exact .nil
  | cons exchange run inductionHypothesis =>
      obtain ⟨first, others⟩ := List.forall_mem_cons.mp accounted
      have later := inductionHypothesis others
      have told := first.reads
      rw [allEvents, List.flatMap_cons, reads_append]
      cases query : exchange.isQuery with
      | false =>
          rw [query, if_neg Bool.false_ne_true, List.forall₂_nil_left_iff] at told
          rw [List.filter_cons_of_neg (by simp [query]), told]
          exact later
      | true =>
          rw [query, if_pos rfl, List.forall₂_cons_left_iff] at told
          obtain ⟨read, others, tells, noOthers, told⟩ := told
          rw [List.forall₂_nil_left_iff.mp noOthers] at told
          rw [List.filter_cons_of_pos query, told]
          exact .cons tells later

theorem changes_allEvents :
    changes (allEvents run) + run.countP Exchange.isUnrecorded =
      run.countP Exchange.isWrite + if recording then run.length else 0 := by
  induction run with
  | nil => cases recording <;> rfl
  | cons exchange run inductionHypothesis =>
      obtain ⟨first, others⟩ := List.forall_mem_cons.mp accounted
      have later := inductionHypothesis others
      have told := first.changes
      rw [allEvents, List.flatMap_cons, changes_append, List.countP_cons, List.countP_cons,
        List.length_cons, ← allEvents]
      cases recording <;>
        simp only [if_true, if_false, Bool.false_eq_true] at later told ⊢ <;> omega

end

/-- A report tells of the duration and of the page that an exchange was answered with. -/
structure Exchange.ReportedAs (policy : Policy) (exchange : Exchange) (report : QueryReport) :
    Prop where
  duration : report.duration = saturateWord exchange.arrival.clock.elapsed
  slow : report.slow = decide (policy.slowAfter ≤ exchange.arrival.clock.elapsed)
  shown : ShowsPage exchange.reply.response.body report.page report.limit report.total

theorem Exchange.Tells.reportedAs {policy : Policy} (word : policy.slowAfter ≤ maxWord)
    {exchange : Exchange} {read : PagedRead} (tells : exchange.Tells read) :
    exchange.ReportedAs policy (policy.report read.run) where
  duration := congrArg saturateWord tells.1
  slow := (policy.isSlow_eq word read.run).trans (by rw [← tells.1]; rfl)
  shown := tells.2

/--
A run of requests is accounted for. The queries grow by the lists and sections that are answered,
and the slow ones, which are never more, by those of them that took as long as the threshold. The
writes grow by the creations, updates and deletions that are answered and, with recording, by one
for each request, as long as there is a next number for each record. In all runs, a record is missing
only where the request log holds the largest signed 64-bit number, behind which the next one
overflows. So a request that is refused adds its record and nothing else. Each of the queries has one
report, in order, which tells of the page in the answer; none has one if reports are switched off.
-/
theorem exchanges_account {store : Store} (reachable : Reachable store) {service : Service}
    (standard : service.registry = .standard) {policy : Policy} (word : policy.slowAfter ≤ maxWord)
    (counters : Counters) (arrivals : List Arrival) :
    let run := exchanges service store arrivals
    let after := counters.observeAll policy (allEvents run)
    let reports := (allEvents run).flatMap policy.reportsOf
    run.map Exchange.arrival = arrivals ∧
      after.queries = counters.queries + run.countP Exchange.isQuery ∧
      after.slow = counters.slow + run.countP (Exchange.isSlow policy) ∧
      after.slow + counters.queries ≤ after.queries + counters.slow ∧
      ((service.recording = true → HasNumbers store arrivals) →
        after.writes = counters.writes + run.countP Exchange.isWrite +
          (if service.recording then arrivals.length else 0)) ∧
      after.writes + run.countP Exchange.isUnrecorded =
        counters.writes + run.countP Exchange.isWrite +
          (if service.recording then arrivals.length else 0) ∧
      (∀ exchange ∈ run, exchange.Accounted service.recording) ∧
      (policy.structured = true →
        List.Forall₂ (Exchange.ReportedAs policy) (run.filter Exchange.isQuery) reports) ∧
      (policy.structured = false → reports = []) := by
  intro run after reports
  have accounted : ∀ exchange ∈ run, exchange.Accounted service.recording :=
    accounted_exchanges reachable.holdsCatalogue standard arrivals
  have told := forall₂_reads_allEvents accounted
  have changed := changes_allEvents accounted
  have arrived : run.map Exchange.arrival = arrivals := map_arrival_exchanges service store arrivals
  have sameLength : run.length = arrivals.length := by
    rw [← arrived, List.length_map]
  have counted : after = _ := Counters.observeAll_eq policy counters (allEvents run)
  have queries : (reads (allEvents run)).length = run.countP Exchange.isQuery := by
    rw [← told.length_eq, List.countP_eq_length_filter]
  have slow : ((reads (allEvents run)).countP fun read => policy.isSlow read.run) =
      run.countP (Exchange.isSlow policy) := by
    refine (countP_eq_of_forall₂ told fun exchange read tells =>
      (tells.reportedAs word).slow.symm).symm.trans ?_
    rw [List.countP_filter]
    exact congrArg (List.countP · run) (funext fun exchange => Bool.and_comm _ _)
  have fewer : run.countP (Exchange.isSlow policy) ≤ run.countP Exchange.isQuery :=
    List.countP_mono_left fun exchange _ isSlow => (Bool.and_eq_true_iff.mp isSlow).1
  have reported : reports = _ := flatMap_reportsOf policy (allEvents run)
  have writes : after.writes + run.countP Exchange.isUnrecorded =
      counters.writes + run.countP Exchange.isWrite +
        (if service.recording then arrivals.length else 0) := by
    rw [counted, ← sameLength]
    dsimp only
    omega
  refine ⟨arrived, ?_, ?_, ?_, fun numbers => ?_, writes, accounted, fun structured => ?_,
    fun unstructured => ?_⟩
  · rw [counted, queries]
  · rw [counted, slow]
  · rw [counted, queries, slow]
    dsimp only
    omega
  · have allRecorded : run.countP Exchange.isUnrecorded = 0 :=
      countP_isUnrecorded reachable.holdsCatalogue standard numbers
    rw [allRecorded, Nat.add_zero] at writes
    exact writes
  · rw [reported, if_pos structured, List.forall₂_map_right_iff]
    exact told.imp fun _ _ tells => tells.reportedAs word
  · rw [reported, if_neg (by simp [unstructured])]

/-- A genre is added, the genres are listed slowly and a path leads nowhere, all of it recorded behind
an empty request log. -/
theorem exchanges_account_three :
    let policy : Policy := ⟨5, true⟩
    let add : Request :=
      { method := .post, path := "/genres", body := some (.object [("id", .string "Drama")]) }
    let arrivals : List Arrival :=
      [⟨⟨0, .zero, .zero, 0⟩, add⟩, ⟨⟨0, .zero, .zero, 7⟩, { method := .get, path := "/genres" }⟩,
        ⟨⟨0, .zero, .zero, 9⟩, { method := .get, path := "/nowhere" }⟩]
    let run := exchanges { recording := true } emptyStore arrivals
    let after := Counters.observeAll policy {} (allEvents run)
    policy.slowAfter ≤ maxWord ∧ HasNumbers emptyStore arrivals ∧
      run.map (·.reply.response.status) = [200, 200, 404] ∧
      after.queries = 1 ∧ after.slow = 1 ∧ after.writes = 4 ∧
      List.Forall₂ (Exchange.ReportedAs policy) (run.filter Exchange.isQuery)
        ((allEvents run).flatMap policy.reportsOf) := by
  intro policy add arrivals run after
  have word : policy.slowAfter ≤ maxWord := by decide
  have isQuery : run.countP Exchange.isQuery = 1 := by decide +kernel
  have isSlow : run.countP (Exchange.isSlow policy) = 1 := by decide +kernel
  have isWrite : run.countP Exchange.isWrite = 1 := by decide +kernel
  have numbers : HasNumbers emptyStore arrivals := by
    refine ⟨?_, ?_⟩
    · simp only [arrivals, List.forall_mem_cons, List.not_mem_nil, false_implies, implies_true,
        and_true]
      exact ⟨Request.not_asksFor (by decide +kernel), Request.not_asksFor (by decide +kernel),
        Request.not_asksFor (by decide +kernel)⟩
    · rintro table last ⟨⟩ lastNumber
      rcases lastNumber.attained with ⟨-, rfl⟩ | ⟨row, member, -⟩
      · decide
      · cases member
  obtain ⟨-, queries, slow, -, writes, -, -, reported, -⟩ :=
    exchanges_account .empty (rfl : ({ recording := true } : Service).registry = .standard) word {}
      arrivals
  have writes := writes fun _ => numbers
  rw [isQuery] at queries
  rw [isSlow] at slow
  rw [isWrite] at writes
  exact ⟨word, numbers, by decide +kernel, queries, slow, writes, reported rfl⟩

/-- Behind the largest number and the smallest one there is no next number: a path that leads nowhere
is answered, but not recorded, and nothing is written. -/
theorem exchanges_account_lost :
    let clock : Clock := ⟨0, .zero, .zero, 0⟩
    let lost : Request := { method := .get, path := "/nowhere" }
    let entry (number : Int64) : Row := requestLog.toRow (logRecord number clock lost .routeNotFound)
    let table : Table :=
      ⟨requestLog.spec, [⟨1, entry Int64.maxValue⟩, ⟨2, entry Int64.minValue⟩], 3⟩
    let run := exchanges { recording := true } (emptyStore.put table) [⟨clock, lost⟩]
    let after := Counters.observeAll ⟨5, true⟩ {} (allEvents run)
    Reachable (emptyStore.put table) ∧ run.map (·.reply.response.status) = [404] ∧
      after.writes = 0 ∧ run.countP Exchange.isWrite + run.length = 1 := by
  intro clock lost entry table run after
  have inserted : emptyStore.commit "request"
      [.insert (entry Int64.maxValue), .insert (entry Int64.minValue)] =
      .ok (emptyStore.put table, [entry Int64.maxValue, entry Int64.minValue]) :=
    Store.commit_eq_ok.mpr ⟨⟨requestLog.spec, [], 1⟩, table, rfl, rfl, rfl⟩
  exact ⟨.committed .empty inserted, by decide +kernel, by decide +kernel, by decide +kernel⟩

end MovieCatalogue.Endpoint

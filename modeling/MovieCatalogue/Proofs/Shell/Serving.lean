import MovieCatalogue.Proofs.Endpoint.Agreement
import MovieCatalogue.Proofs.Endpoint.FiniteReals
import MovieCatalogue.Shell.Turns

/-!
Contract: commands that a store serves.

Owns: what the commands other than `metrics` and `init` come to, a request or the
documentation; that carrying them out depends on the rows of the store alone, and keeps
what requests keep; and that a command after which the store is not written left it as
it was.
Does not own: data files; see `Proofs.Shell.OneProcess`.
-/

namespace MovieCatalogue.Shell

open MovieCatalogue.Endpoint MovieCatalogue.Journal MovieCatalogue.Record MovieCatalogue.Refusal
open MovieCatalogue.Storage

/-- What a command comes to, whatever it is carried out on. -/
inductive Command.ComesTo (command : Command String) : Prop
  | fault (error : RequestError)
      (runs : ∀ service store clock counters file mode,
        command.run service store clock counters file mode = .error error)
  | docs
      (runs : ∀ service store clock counters file mode,
        command.run service store clock counters file mode =
          .ok (Task.docs.run service store clock counters file mode))
  | request (request : Request) (reads : command.isWrite = false → request.method = .get)
      (inRange : request.payload.InRange)
      (runs : ∀ service store clock counters file mode,
        command.run service store clock counters file mode =
          .ok ((Task.send request).run service store clock counters file mode))

theorem inRange_of_parsePayload {text : String} {body : Json}
    (read : parsePayload text = .ok body) : body.InRange := by
  unfold parsePayload at read
  split at read
  case h_1 json readText =>
      cases read
      exact Json.inRange_of_ofText readText
  case h_2 => cases read

namespace Command

/-- A command with a payload comes to a request with the value of its text, if it has one. -/
private theorem comesTo_of_payload {command : Command String} (writes : command.isWrite = true)
    (text : String) (request : Json → Request) (hasBody : ∀ body, (request body).payload = body)
    (runs : ∀ service store clock counters file mode,
      command.run service store clock counters file mode = (parsePayload text).map fun body =>
        (Task.send (request body)).run service store clock counters file mode) :
    command.ComesTo := by
  cases parsed : parsePayload text with
  | error error => exact .fault error fun _ _ _ _ _ _ => by rw [runs, parsed, Except.map]
  | ok body =>
      have reads : command.isWrite = false → (request body).method = .get := by
        rw [writes]
        nofun
      have inRange : (request body).payload.InRange := by
        rw [hasBody]
        exact inRange_of_parsePayload parsed
      exact .request (request body) reads inRange fun _ _ _ _ _ _ => by rw [runs, parsed, Except.map]

theorem comesTo {command : Command String} (served : command.isServed = true) :
    command.ComesTo := by
  cases command with
  | list resource options => exact .request _ (fun _ => rfl) (by exact .null) fun _ _ _ _ _ _ => rfl
  | get resource id => exact .request _ (fun _ => rfl) (by exact .null) fun _ _ _ _ _ _ => rfl
  | create resource text =>
      refine comesTo_of_payload rfl text (fun body =>
        { method := .post, path := resourcePath resource, body := some body }) (fun _ => rfl) ?_
      intro service store clock counters file mode
      rw [run, mapPayload]
      cases parsePayload text <;> rfl
  | update resource id text =>
      refine comesTo_of_payload rfl text (fun body =>
        { method := .put, path := recordPath resource id, body := some body }) (fun _ => rfl) ?_
      intro service store clock counters file mode
      rw [run, mapPayload]
      cases parsePayload text <;> rfl
  | delete resource id => exact .request _ nofun (by exact .null) fun _ _ _ _ _ _ => rfl
  | browseSection id options =>
      exact .request _ (fun _ => rfl) (by exact .null) fun _ _ _ _ _ _ => rfl
  | operators => exact .request _ (fun _ => rfl) (by exact .null) fun _ _ _ _ _ _ => rfl
  | docs => exact .docs fun _ _ _ _ _ _ => rfl
  | metrics => cases served
  | init => cases served

end Command

/-! ## Carrying out a command -/

/-- Two stores of the same rows after a command that showed the same. -/
structure Execution.Alike (first second : Execution) : Prop where
  status : first.status = second.status
  output : first.output = second.output
  store : first.store.SameRows second.store

section

variable {command : Command String} (served : command.isServed = true) {service : Service}
  {clock : Clock} {counters : Counters} {file : DataFile} {mode : OutputMode}
include served

/-- Served commands look at the rows of the store, and not at counters and data files. -/
theorem Command.run_alike {first second : Store} (same : first.SameRows second)
    (firstSound : first.Sound) (secondSound : second.Sound) (otherCounters : Counters)
    (otherFile : DataFile) :
    Alike Execution.Alike (command.run service first clock counters file mode)
      (command.run service second clock otherCounters otherFile mode) := by
  cases Command.comesTo served with
  | fault error runs =>
      rw [runs, runs]
      exact .refused error
  | docs runs =>
      rw [runs, runs]
      exact .taken ⟨rfl, rfl, same⟩
  | request request reads inRange runs =>
      obtain ⟨response, store, events⟩ :=
        dispatch_alike same firstSound secondSound service clock request
      rw [runs, runs]
      refine .taken ⟨?_, ?_, store⟩
      · exact congrArg Response.status response
      · exact congrArg (fun response => mode.print response.body) response

variable {store : Store} {execution : Execution}
  (ran : command.run service store clock counters file mode = .ok execution)
include ran

/-- A command that was carried out is the documentation or a request. -/
theorem Command.run_cases :
    execution = Task.docs.run service store clock counters file mode ∨
      ∃ request : Request, (command.isWrite = false → request.method = .get) ∧
        request.payload.InRange ∧
        execution = (Task.send request).run service store clock counters file mode := by
  cases Command.comesTo served with
  | fault error runs => cases (runs ..).symm.trans ran
  | docs runs => exact .inl (Except.ok.inj (ran.symm.trans (runs ..)))
  | request request reads inRange runs =>
      exact .inr ⟨request, reads, inRange, Except.ok.inj (ran.symm.trans (runs ..))⟩

theorem Command.createsFile_run : execution.createsFile = false := by
  rcases Command.run_cases served ran with rfl | ⟨request, -, -, rfl⟩
  · rfl
  · rfl

/-- A served command keeps the tables of the catalogue. -/
theorem Command.holdsCatalogue_run (holds : HoldsCatalogue store) :
    HoldsCatalogue execution.store := by
  rcases Command.run_cases served ran with rfl | ⟨request, -, -, rfl⟩
  · exact holds
  · exact dispatch_induction (fun committed holds => holds.commit committed) service clock request
      holds

variable (standard : service.registry = .standard)
include standard

/-- A served command keeps the numbers of a store finite: no payload has others. -/
theorem Command.finite_run (finite : store.Finite) (finiteClock : clock.Finite) :
    execution.store.Finite := by
  rcases Command.run_cases served ran with rfl | ⟨request, -, inRange, rfl⟩
  · exact finite
  · exact finite_dispatch finite standard finiteClock inRange

/-- A command after which the store is not written to its file left it as it was. -/
theorem Command.store_run (holds : HoldsCatalogue store)
    (idle : keepsStore service command execution.status = false) : execution.store = store := by
  obtain ⟨noWrite, quiet⟩ := Bool.or_eq_false_iff.mp idle
  rcases Command.run_cases served ran with rfl | ⟨request, reads, -, rfl⟩
  · rfl
  · change (dispatch service store clock request).store = store
    change (command.isWrite &&
      succeeds (dispatch service store clock request).response.status) = false at noWrite
    rw [dispatch_of_quiet quiet] at noWrite ⊢
    refine store_answer holds standard clock request ?_
    rcases Bool.and_eq_false_iff.mp noWrite with readsOnly | failed
    · exact .inr (reads readsOnly)
    · exact .inl failed

end

/-! ## One store for all commands -/

/-- Stores of the same rows show the same for a command, and have the same rows after it. -/
theorem serve_alike {turn : Turn} (served : turn.command.isServed = true) {first second : Store}
    (same : first.SameRows second) (firstSound : first.Sound) (secondSound : second.Sound)
    (service : Service) (file otherFile : DataFile) :
    (serve service file first turn).1 = (serve service otherFile second turn).1 ∧
      (serve service file first turn).2.SameRows (serve service otherFile second turn).2 := by
  have alike : Alike Execution.Alike (turn.command.run service first turn.clock {} file turn.mode)
      (turn.command.run service second turn.clock {} otherFile turn.mode) :=
    Command.run_alike served same firstSound secondSound {} otherFile
  unfold serve
  generalize turn.command.run service first turn.clock {} file turn.mode = own at alike
  generalize turn.command.run service second turn.clock {} otherFile turn.mode = other at alike
  cases alike with
  | refused error => exact ⟨rfl, same⟩
  | taken related =>
      exact ⟨congrArg Except.ok (Prod.ext related.status related.output), related.store⟩

theorem holdsCatalogue_serve {store : Store} (holds : HoldsCatalogue store) (service : Service)
    (file : DataFile) {turn : Turn} (served : turn.command.isServed = true) :
    HoldsCatalogue (serve service file store turn).2 := by
  dsimp only [serve]
  cases ran : turn.command.run service store turn.clock {} file turn.mode with
  | error error => exact holds
  | ok execution => exact Command.holdsCatalogue_run served ran holds

end MovieCatalogue.Shell

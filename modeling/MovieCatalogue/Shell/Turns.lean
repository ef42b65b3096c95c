import MovieCatalogue.Shell.Program

/-!
Contract: commands that are given one after the other.

Owns: `serve`, one store that carries out commands in turn; `invoke`, a process of its
own for a command, which loads the data file and writes it again when there is reason
to; and runs of the program one after the other in a world, each with its own log.
Does not own: that they all show the same; see `Proofs.Shell.OneProcess` and
`Proofs.Shell.Work`.
-/

namespace MovieCatalogue.Shell

open MovieCatalogue.Endpoint MovieCatalogue.Storage

/-- Whether a command is about the catalogue, not about the process or its data file. -/
def Command.isServed {α : Type} : Command α → Bool
  | .metrics | .init => false
  | _ => true

/-- A command, when it is given and how its answer is printed. -/
structure Turn where
  command : Command String
  clock : Clock
  mode : OutputMode

/-- What a command shows: its status and what it prints, or why its payload is none. -/
abbrev Shown := Except RequestError (Nat × String)

namespace Shown

def ofOutcome (outcome : Except RequestError Execution) : Shown :=
  outcome.map fun execution => (execution.status, execution.output)

/-- How the work of a process ends that shows this. -/
def code : Shown → Except Nat Unit
  | .ok (status, _) => if succeeds status then .ok () else .error 1
  | .error _ => .error 1

/-- The code with which the process ends. -/
def exitCode (shown : Shown) : Nat :=
  match shown.code with
  | .ok () => 0
  | .error code => code

/-- What is printed on the standard output. -/
def text : Shown → String
  | .ok (_, text) => text
  | .error _ => ""

end Shown

/-! ## One store for all commands -/

/-- The store after a command. -/
def storeAfter (store : Store) : Except RequestError Execution → Store
  | .ok execution => execution.store
  | .error _ => store

/-- Carries out one command on a store that stays in memory: what it shows and the store. -/
def serve (service : Service) (file : DataFile) (store : Store) (turn : Turn) :
    Shown × Store :=
  let outcome := turn.command.run service store turn.clock {} file turn.mode
  (.ofOutcome outcome, storeAfter store outcome)

/-- Carries out commands one after the other on one store. -/
def serveAll (service : Service) (file : DataFile) (store : Store) :
    List Turn → List (Shown × Store)
  | [] => []
  | turn :: turns =>
    let result := serve service file store turn
    result :: serveAll service file result.2 turns

/-- The store when all commands were carried out on it. -/
def storeAfterAll (service : Service) (file : DataFile) (store : Store) (turns : List Turn) : Store :=
  turns.foldl (fun store turn => (serve service file store turn).2) store

/-! ## A process for each command -/

/-- The data file after a command: the store is written to it, or it stays. -/
def fileAfter (service : Service) (file : FileState) (command : Command String) :
    Except RequestError Execution → FileState
  | .ok execution =>
    if keepsStore service command execution.status then
      .found (Snapshot.ofStore execution.store).text
    else file
  | .error _ => file

/-- A process of its own for one command: what it shows and the data file. -/
def invoke (service : Service) (path : String) (file : FileState) (turn : Turn) :
    Except String (Shown × FileState) := do
  let (store, _) ← openedStore path file
  let outcome := turn.command.run service store turn.clock {} ⟨path, file.isPresent⟩ turn.mode
  return (.ofOutcome outcome, fileAfter service file turn.command outcome)

/-- A process for each command, each of which finds the data file that the last one left. -/
def invokeAll (service : Service) (path : String) (file : FileState) :
    List Turn → Except String (List (Shown × FileState))
  | [] => return []
  | turn :: turns => do
    let outcome ← invoke service path file turn
    return outcome :: (← invokeAll service path outcome.2 turns)

/-! ## Runs of the program -/

/-- A command whose payload stands on the command line. -/
def Command.given (command : Command String) : Command PayloadSource :=
  Id.run (command.mapPayload fun text => PayloadSource.given text)

namespace Program

variable {m : Type → Type} {Handle : Type} [Monad m]

/-- What a run starts to work with. -/
structure Start (Handle : Type) where
  given : Given
  zone : Calendar.Zone
  config : Settings.Config
  invocation : Invocation
  /-- The log that was opened for it. -/
  log : Log Handle

def Start.setting (start : Start Handle) (world : World m Handle) : Setting m Handle :=
  ⟨world, start.given, start.zone, start.config⟩

/-- The turn that a run with a command is. -/
def Start.turn (start : Start Handle) (command : Command String) : Turn :=
  ⟨command, .standing start.given.moment start.given.elapsed, start.invocation.mode⟩

/-- The work of a run, which ends with a code. -/
def workFrom (world : World m Handle) (start : Start Handle) : m (Except Nat Unit) :=
  StateT.run' (ExceptT.run ((start.setting world).work start.invocation)) start.log

/-- The work of one run after the other. -/
def workAll (world : World m Handle) : List (Start Handle) → m (List (Except Nat Unit))
  | [] => return []
  | start :: starts => do
    let code ← workFrom world start
    return code :: (← workAll world starts)

end Program

end MovieCatalogue.Shell

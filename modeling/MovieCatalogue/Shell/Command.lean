import MovieCatalogue.Endpoint.Dispatch
import MovieCatalogue.Journal.Telemetry
import MovieCatalogue.Json.Printer
import MovieCatalogue.Json.Reader
import MovieCatalogue.Storage.Snapshot

/-!
Contract: the commands of the command line.

Owns: the commands, the request that a command stands for, and what carrying out
a command prints and leaves behind. Identifiers are written as path segments, so
they reach the operation as they were given. Documentation, counters and the
creation of the data file need no request.
Does not own: reading arguments, and files; see `Shell.Arguments` and
`Shell.Program`.
-/

namespace MovieCatalogue.Shell

open MovieCatalogue.Endpoint MovieCatalogue.Journal MovieCatalogue.Storage

/-- The parameters of a list on the command line. -/
structure ListOptions where
  page : Option Int64 := none
  limit : Option Int64 := none
  sort : List String := []
  filter : List String := []
deriving DecidableEq

/-- A command, with its payload as it is given. -/
inductive Command (α : Type) where
  | list (resource : String) (options : ListOptions)
  | get (resource id : String)
  | create (resource : String) (payload : α)
  | update (resource id : String) (payload : α)
  | delete (resource id : String)
  | browseSection (id : String) (options : ListOptions)
  | operators
  | docs
  | metrics
  | init
deriving DecidableEq

/-- How answers are printed. -/
inductive OutputMode where
  | human
  | json
deriving DecidableEq, Repr

/-- Whether a command may change stored data. -/
def Command.isWrite {α : Type} : Command α → Bool
  | .create _ _ | .update _ _ _ | .delete _ _ => true
  | _ => false

def Command.mapPayload {m : Type → Type} [Monad m] {α β : Type} (f : α → m β) :
    Command α → m (Command β)
  | .list resource options => return .list resource options
  | .get resource id => return .get resource id
  | .create resource payload => return .create resource (← f payload)
  | .update resource id payload => return .update resource id (← f payload)
  | .delete resource id => return .delete resource id
  | .browseSection id options => return .browseSection id options
  | .operators => return .operators
  | .docs => return .docs
  | .metrics => return .metrics
  | .init => return .init

/-- The value of a payload; blanks around it do not matter. -/
def parsePayload (text : String) : Except RequestError Json :=
  match Json.ofText (Text.trim text) with
  | .ok json => .ok json
  | .error reason => .error (.invalid ("invalid JSON payload: " ++ reason))

def ListOptions.pairs (options : ListOptions) : List (String × String) :=
  options.page.toList.map (fun n => ("page", Number.intText n.toInt)) ++
    options.limit.toList.map (fun n => ("limit", Number.intText n.toInt)) ++
    options.sort.map (fun token => ("sort", token)) ++
    options.filter.map (fun token => ("filter", token))

/-- The path of all records of a resource. -/
def resourcePath (resource : String) : String :=
  "/" ++ resource

def recordPath (resource id : String) : String :=
  resourcePath resource ++ "/" ++ encodeSegment id

/-- The work of a command. -/
inductive Task where
  | send (request : Request)
  | docs
  | metrics
  | init

def Command.task : Command Json → Task
  | .list resource options =>
    .send { method := .get, path := resourcePath resource, query := options.pairs }
  | .get resource id => .send { method := .get, path := recordPath resource id }
  | .create resource body =>
    .send { method := .post, path := resourcePath resource, body := some body }
  | .update resource id body =>
    .send { method := .put, path := recordPath resource id, body := some body }
  | .delete resource id => .send { method := .delete, path := recordPath resource id }
  | .browseSection id options =>
    .send { method := .get, path := recordPath "sections" id ++ "/movies", query := options.pairs }
  | .operators => .send { method := .get, path := "/operators" }
  | .docs => .docs
  | .metrics => .metrics
  | .init => .init

/-- An answer as it is printed, on lines of its own. -/
def OutputMode.print (mode : OutputMode) (json : Json) : String :=
  match mode with
  | .json => json.compact ++ "\n"
  | .human => json.pretty ++ "\n"

/-- The place of the data file, and whether there is one. -/
structure DataFile where
  path : String
  isPresent : Bool
deriving DecidableEq, Repr

/-- What carrying out a command leaves behind. -/
structure Execution where
  /-- The status of the answer; work without a request succeeds. -/
  status : Nat
  output : String
  store : Store
  events : List Event
  /-- Whether the store is to be written to the data file at once. -/
  createsFile : Bool := false

def initAnswer (file : DataFile) : Json :=
  .object
    [("action", .string (if file.isPresent then "exists" else "created")),
     ("path", .string file.path)]

def Task.run (task : Task) (service : Service) (store : Store) (clock : Clock)
    (counters : Counters) (file : DataFile) (mode : OutputMode) : Execution :=
  match task with
  | .send request =>
    let reply := dispatch service store clock request
    ⟨reply.response.status, mode.print reply.response.body, reply.store, reply.events, false⟩
  | .docs => ⟨200, mode.print (documentation service.registry), store, [], false⟩
  | .metrics => ⟨200, counters.text, store, [], false⟩
  | .init =>
    let events : List Event :=
      if file.isPresent then []
      else [.snapshotSaved (Snapshot.ofStore store).rowCount file.path]
    ⟨200, mode.print (initAnswer file), store, events, !file.isPresent⟩

/-- Carries out a command, unless its payload is no JSON text. -/
def Command.run (command : Command String) (service : Service) (store : Store) (clock : Clock)
    (counters : Counters) (file : DataFile) (mode : OutputMode) :
    Except RequestError Execution := do
  let command ← command.mapPayload parsePayload
  return command.task.run service store clock counters file mode

end MovieCatalogue.Shell

import MovieCatalogue.Calendar.ZoneReading
import MovieCatalogue.Shell.Arguments
import MovieCatalogue.Shell.LogWriting

/-!
Contract: one run of the program.

Owns: `Program.run`, which carries out a command line in a world and gives the code
with which the run ends. A run reads its command line and its settings, opens its
log, loads its data file, carries out one command, and writes the data file again
when a command changed something or requests are recorded. Settings that do not
hold end the run with code 2, every other failure with code 1; a log that cannot be
opened is no failure.
Does not own: real input and output; see `Main`.
-/

namespace MovieCatalogue.Shell

open MovieCatalogue.Disk (Fault)
open MovieCatalogue.Endpoint MovieCatalogue.Journal MovieCatalogue.Settings MovieCatalogue.Storage

/-- What a run is given. -/
structure Given where
  arguments : List String
  moment : Calendar.Moment
  /-- The milliseconds that every query takes. -/
  elapsed : Nat := 0

section Settings

variable {m : Type → Type} {Handle : Type} [Monad m]

/-- Says why a run cannot start, and gives its code. -/
def refuseStart (world : World m Handle) (reason : String) : m Nat := do
  world.complain ("error: " ++ reason ++ "\n")
  return 2

/-- The end of a run whose command line asks for nothing to be done. -/
def Halt.finish (world : World m Handle) : Halt → m Nat
  | .help grammar => do
    world.print grammar.helpText
    return 0
  | .version => do
    world.print versionText
    return 0
  | .fault cause => refuseStart world cause.message

/-! ## Settings -/

def settingsFile : String := "cinelite.toml"

/-- The settings file that the command line or the environment names. -/
def namedSettings? (environment : Environment) (invocation : Invocation) : Option String :=
  invocation.configFile <|> environment.get? "CINELITE_CONFIG"

def Invocation.layer (invocation : Invocation) : Layer where
  dataPath := invocation.dataPath
  recordRequests := if invocation.recordRequests then some true else none
  log := { level := invocation.logLevel }

/-- The settings file: the one that is named, or that of the directory if there is one. -/
def settingsPath? (world : World m Handle) (environment : Environment) (invocation : Invocation) :
    m (Option String) := do
  match namedSettings? environment invocation with
  | some path => return some path
  | none => return if ← world.isPresent settingsFile then some settingsFile else none

def fileLayer (world : World m Handle) (path : String) : ExceptT ConfigError m Layer := do
  match ← world.readText path with
  | .ok text => Layer.ofToml path text
  | .error fault => throw (.unreadable path fault.message)

def loadConfig (world : World m Handle) (environment : Environment) (invocation : Invocation) :
    ExceptT ConfigError m Config := do
  let path ← ExceptT.lift (settingsPath? world environment invocation)
  let file ← path.mapM (fileLayer world)
  let environmentLayer ← Layer.ofEnvironment environment
  Config.layered file environmentLayer invocation.layer

end Settings

/-! ## The command -/

/-- Whether the store is written to the data file after a command. -/
def keepsStore {α : Type} (service : Service) (command : Command α) (status : Nat) : Bool :=
  (command.isWrite && succeeds status) || service.recording

def openedEvent (path : String) (file : FileState) (count : Nat) : Event :=
  if file.isPresent then .snapshotLoaded count path else .snapshotMissing path

/-- The store that a data file keeps, with the number of its rows. -/
def openedStore (path : String) (file : FileState) : Except String (Store × Nat) :=
  match Snapshot.load Record.emptyStore file with
  | (store, .ok count) => .ok (store, count)
  | (_, .error error) => .error ("cannot load " ++ path ++ ": " ++ error.message)

/-- What happens when a store is written to the data file. -/
def savedEvent (path : String) (store : Store) : Event :=
  .snapshotSaved (Snapshot.ofStore store).rowCount path

def serviceOf (config : Config) : Service where
  limits := config.pageLimits
  recording := config.recordRequests

/-! ## The run -/

namespace Program

variable {m : Type → Type} {Handle : Type} [Monad m] {α : Type}

/-- What a run works with. -/
structure Setting (m : Type → Type) (Handle : Type) where
  world : World m Handle
  given : Given
  /-- The zone of the times in log lines. -/
  zone : Calendar.Zone
  config : Config

namespace Setting

def present (setting : Setting m Handle) : Calendar.LocalMoment :=
  ⟨setting.given.moment, setting.zone⟩

def note (setting : Setting m Handle) (events : List Event) : Running m Handle Unit :=
  let policy : Policy := { slowAfter := setting.config.slowQueryMs }
  let stamp := setting.given.moment.reportText
  Log.write setting.world setting.present (events.flatMap (Event.lines policy stamp))

/-- What an attempt gives; a fault ends the run. -/
def need {ε : Type} (setting : Setting m Handle) (text : ε → String) :
    Except ε α → Running m Handle α
  | .ok value => return value
  | .error error => Running.fail setting.world 1 (text error)

/-- The text of a payload, if there is one. -/
def payloadText (setting : Setting m Handle) : PayloadSource → Running m Handle String
  | .given text => return text
  | .input => do setting.need Fault.message (← Running.perform setting.world.inputText)
  | .missing =>
    Running.fail setting.world 1 "missing JSON payload (pass it inline or use --stdin)"

def save (setting : Setting m Handle) (store : Store) : Running m Handle Unit := do
  let bytes := (Snapshot.ofStore store).text.toUTF8
  let outcome ← Running.perform (setting.world.replace setting.config.dataPath bytes)
  setting.need (fun fault => (StoreError.io fault.message).message) outcome

def openStore (setting : Setting m Handle) : Running m Handle Store := do
  let path := setting.config.dataPath
  let file ← Running.perform (setting.world.state path)
  let (store, count) ← setting.need id (openedStore path file)
  setting.note [openedEvent path file count]
  return store

/-- Carries out a command: what it leaves behind is saved at once if it makes the data file. -/
def execute (setting : Setting m Handle) (store : Store) (command : Command String)
    (mode : OutputMode) : Running m Handle Execution := do
  let path := setting.config.dataPath
  let clock := Clock.standing setting.given.moment setting.given.elapsed
  let file : DataFile := ⟨path, ← Running.perform (setting.world.isPresent path)⟩
  let outcome := command.run (serviceOf setting.config) store clock {} file mode
  let execution ← setting.need RequestError.message outcome
  if execution.createsFile then
    setting.save execution.store
  setting.note execution.events
  Running.say setting.world .output execution.output
  return execution

/-- Loads the data file, carries out a command and writes the data file again. -/
def work (setting : Setting m Handle) (invocation : Invocation) : Running m Handle Unit := do
  let store ← setting.openStore
  let command ← invocation.command.mapPayload setting.payloadText
  let execution ← setting.execute store command invocation.mode
  if keepsStore (serviceOf setting.config) command execution.status then
    setting.save execution.store
    setting.note [savedEvent setting.config.dataPath execution.store]
  if !succeeds execution.status then
    setting.note [.commandFinished execution.status]
    throw 1

end Setting

def runWith (world : World m Handle) (environment : Environment) (given : Given)
    (invocation : Invocation) (config : Config) : m Nat := do
  let zone := Calendar.Zone.ofDescription (← world.lookUp "TZ")
  let setting : Setting m Handle := ⟨world, given, zone, config⟩
  let steps : Running m Handle Unit := do
    Log.openFrom world environment setting.present config.log
    setting.work invocation
  match ← StateT.run' (ExceptT.run steps) {} with
  | .ok () => return 0
  | .error code => return code

/-- One run of the program, which ends with a code. -/
def run (world : World m Handle) (given : Given) : m Nat := do
  match Invocation.ofArguments given.arguments with
  | .error halt => halt.finish world
  | .ok invocation =>
    let environment ← world.environment
    match ← (loadConfig world environment invocation).run with
    | .error error => refuseStart world error.message
    | .ok config => runWith world environment given invocation config

end Program

end MovieCatalogue.Shell

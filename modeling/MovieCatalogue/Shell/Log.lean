import MovieCatalogue.Journal.SetupReading
import MovieCatalogue.Settings.Basic
import MovieCatalogue.Shell.Running

/-!
Contract: opening the log of a run.

Owns: the opening of the log that the settings ask for, which is the built-in one or
one that a file describes. All files of the built-in log have to be opened; of a
described log, the appenders that cannot be opened are left out with a complaint.
Does not own: what is written to a log, see `Shell.LogWriting`; what a description
may say, see `Journal.SetupReading`.
-/

namespace MovieCatalogue.Shell

open MovieCatalogue.Disk MovieCatalogue.Journal MovieCatalogue.Settings

/-- Why the format of a description is refused, by its extension. -/
def descriptionFault? (path : String) : Option String :=
  match extension? path with
  | none => some "unable to determine the file format"
  | some "yaml" | some "yml" => none
  | some "json" => some "the `json_format` feature is required for JSON support"
  | some "toml" => some "the `toml_format` feature is required for TOML support"
  | some other => some ("unsupported file format `" ++ other ++ "`")

/-- The complaints about a described log, each on a line of its own. -/
def complaintLines (complaints : List String) : String :=
  String.join (complaints.map fun complaint => "log4rs: " ++ complaint ++ "\n")

namespace Log

variable {m : Type → Type} {Handle : Type} [Monad m]

/-- A step of a run that gives up with a reason. -/
abbrev Opening (m : Type → Type) (Handle α : Type) := ExceptT String (Running m Handle) α

def attempt {α : Type} (step : m (Except Fault α)) : Opening m Handle α := do
  match ← ExceptT.lift (Running.perform step) with
  | .ok value => return value
  | .error fault => throw fault.message

/-! ## Outlets -/

/-- Opens the file at a path, with the directories above it. -/
def openFile (world : World m Handle) (path : String) (keeps : Bool) : Opening m Handle Handle := do
  if let some parent := parent? path then
    attempt (world.makeDirectories parent)
  attempt (if keeps then world.openEnd path else world.openEmpty path)

/-- Opens a file that is put aside from time to time. -/
def openRotated (world : World m Handle) (file : RotatedFile Handle) :
    Opening m Handle (RotatedFile Handle) := do
  let steps := RotatedFile.openFirst world
  let (outcome, file) ← ExceptT.lift (Running.perform (StateT.run (ExceptT.run steps) file))
  match outcome with
  | .ok () => return file
  | .error (.failed reason) => throw reason
  | .error .broken => ExceptT.lift Running.breakOff

/-- Whether a variable has a value other than zero. -/
def isWanted (world : World m Handle) (name : String) : m Bool := do
  return (← world.lookUp name).any (· != "0")

/--
Whether the standard outputs are taken for terminals that show colours. Nothing
is known of what reads them, so that they are only if the variables ask for it.
-/
def showsColours (world : World m Handle) : m Bool := do
  if ← isWanted world "NO_COLOR" then return false
  else isWanted world "CLICOLOR_FORCE"

def openStream (world : World m Handle) (stream : Stream) (terminalOnly : Bool) :
    Opening m Handle (OpenOutlet Handle) := do
  let coloured ← ExceptT.lift (Running.perform (showsColours world))
  return if terminalOnly && !coloured then .nowhere else .stream stream coloured

def openOutlet (world : World m Handle) (present : Calendar.LocalMoment) :
    Outlet → Opening m Handle (OpenOutlet Handle)
  | .file path keeps => do
    let expanded ← ExceptT.lift (Running.perform (expandVariables world path))
    match expandMoment? present expanded with
    | none => ExceptT.lift Running.breakOff
    | some path => return .file (← openFile world path keeps)
  | .rotated path keeps rotation => do
    let expanded ← ExceptT.lift (Running.perform (expandVariables world path))
    return .rotated (← openRotated world (.closed expanded keeps rotation))
  | .stream stream terminalOnly => openStream world stream terminalOnly

/-! ## Logs -/

/-- Opens the built-in log, one file after the other, up to the first fault. -/
def openStandard (world : World m Handle) (present : Calendar.LocalMoment) (directory : String)
    (retention : Nat) (verbosity : Verbosity) : Opening m Handle (Log Handle) := do
  attempt (world.makeDirectories directory)
  let setup := Setup.standard directory retention verbosity
  let appenders ← setup.appenders.mapM fun appender =>
    return (appender, ← openOutlet world present appender.outlet)
  return ⟨setup.routing, appenders⟩

/-- Opens the appenders that can be opened, with complaints about the others. -/
def openAppenders (world : World m Handle) (present : Calendar.LocalMoment) :
    List Appender → Running m Handle (List (Appender × OpenOutlet Handle) × List String)
  | [] => return ([], [])
  | appender :: others => do
    let outcome ← (openOutlet world present appender.outlet).run
    let (opened, complaints) ← openAppenders world present others
    match outcome with
    | .ok outlet => return ((appender, outlet) :: opened, complaints)
    | .error reason => return (opened, AppenderPart.complaint appender.name reason :: complaints)

/-- Opens the log of a description. What is amiss is left out and complained about. -/
def openDescription (world : World m Handle) (present : Calendar.LocalMoment)
    (description : Description) : Running m Handle (Log Handle) := do
  let setup := description.setup
  let (appenders, faults) ← openAppenders world present setup.appenders
  let known := appenders.map fun entry => entry.1.name
  Running.say world .errors (complaintLines
    (description.complaints ++ faults ++ (setup.routing.faults known).map RoutingFault.message))
  return ⟨setup.routing.restrict known, appenders⟩

def openDescribed (world : World m Handle) (present : Calendar.LocalMoment) (path : String) :
    Opening m Handle (Log Handle) := do
  if let some reason := descriptionFault? path then
    throw reason
  match Description.ofText (← attempt (world.readText path)) with
  | .ok description => ExceptT.lift (openDescription world present description)
  | .error refusal =>
    match refusal.message? with
    | some reason => throw reason
    | none => ExceptT.lift Running.breakOff

def openBySettings (world : World m Handle) (environment : Environment)
    (present : Calendar.LocalMoment) (config : LogConfig) : Opening m Handle (Log Handle) :=
  match config.configFile with
  | some path => openDescribed world present path
  | none =>
    let verbosity : Verbosity := ⟨Level.ofWord config.level, wantsDeveloperLog environment⟩
    openStandard world present (config.directory.getD "") config.retention verbosity

/-- Opens the log that the settings ask for; without one nothing is logged. -/
def openFrom (world : World m Handle) (environment : Environment) (present : Calendar.LocalMoment)
    (config : LogConfig) : Running m Handle Unit := do
  match ← (openBySettings world environment present config).run with
  | .ok log => set log
  | .error reason => Running.say world .errors ("warning: logging disabled: " ++ reason ++ "\n")

end Log

end MovieCatalogue.Shell

import MovieCatalogue.Settings.Basic
import MovieCatalogue.Toml.Reader

/-!
Contract: layers from a file and from the environment.

Owns: the reading of a TOML text and of the variables, which are read in a fixed
order so that the first bad one is the one reported.
Does not own: which file is read; see `Shell.Program`.
-/

namespace MovieCatalogue.Settings

/-- The variables of the environment. -/
abbrev Environment := Fields String

def variableNames : List String :=
  ["CINELITE_CONFIG", "CINELITE_DATA", "CINELITE_DEFAULT_PAGE_SIZE", "CINELITE_MAX_PAGE_SIZE",
   "CINELITE_RECORD_REQUESTS", "CINELITE_SLOW_QUERY_MS", "CINELITE_LOG_DIR",
   "CINELITE_LOG_LEVEL", "CINELITE_LOG_RETENTION", "CINELITE_LOG_CONFIG", "CINELITE_DEV_LOG"]

/-- A list of log settings, cut where the settings end: a file may list more than there are. -/
def cutLogList (member : String × Json) : String × Json :=
  match member with
  | ("log", .array items) => ("log", .array (items.take LogLayer.shape.length))
  | other => other

def Layer.ofToml (path text : String) : Except ConfigError Layer :=
  match Toml.ofText? text with
  | none => .error (.unparsable path)
  | some members =>
    let document := Json.object ((Toml.membersToJson members).map cutLogList)
    (Layer.ofJson document).mapError fun _ => .unparsable path

/-- A variable that may be unset. -/
def readVariable {α : Type} (read : String → Option α) (environment : Environment)
    (name : String) : Except ConfigError (Option α) :=
  match environment.get? name with
  | none => .ok none
  | some text =>
    match read text with
    | some value => .ok (some value)
    | none => .error (.badVariable name text)

/-- A truth value in one of eight spellings, in any case. -/
def readSwitch? (text : String) : Option Bool :=
  match Text.lowerAscii text with
  | "1" | "true" | "yes" | "on" => some true
  | "0" | "false" | "no" | "off" => some false
  | _ => none

def Layer.ofEnvironment (environment : Environment) : Except ConfigError Layer := do
  let word := readVariable Number.readWord? environment
  let defaultPageSize ← word "CINELITE_DEFAULT_PAGE_SIZE"
  let maxPageSize ← word "CINELITE_MAX_PAGE_SIZE"
  let recordRequests ← readVariable readSwitch? environment "CINELITE_RECORD_REQUESTS"
  let slowQueryMs ← word "CINELITE_SLOW_QUERY_MS"
  let retention ← word "CINELITE_LOG_RETENTION"
  return {
    dataPath := environment.get? "CINELITE_DATA"
    defaultPageSize := defaultPageSize
    maxPageSize := maxPageSize
    recordRequests := recordRequests
    slowQueryMs := slowQueryMs
    log := {
      directory := environment.get? "CINELITE_LOG_DIR"
      level := environment.get? "CINELITE_LOG_LEVEL"
      retention := retention
      configFile := environment.get? "CINELITE_LOG_CONFIG" } }

/-- Whether the environment asks for developer traces in the log. -/
def wantsDeveloperLog (environment : Environment) : Bool :=
  match environment.get? "CINELITE_DEV_LOG" with
  | none => false
  | some text => ["1", "true", "yes"].contains (Text.lowerAscii text)

end MovieCatalogue.Settings

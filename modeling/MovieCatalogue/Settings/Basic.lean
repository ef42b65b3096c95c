import MovieCatalogue.Endpoint.Listing
import MovieCatalogue.Settings.Layer

/-!
Contract: the settings of a run.

Owns: `Config`, the settings with their standard values; the layering of
sources, of which a later one wins; the check that the page sizes agree; and the
errors of settings with their texts.
Does not own: reading a source; see `Settings.Source`.
-/

namespace MovieCatalogue.Settings

/-- Why there are no settings. -/
inductive ConfigError where
  | unreadable (path reason : String)
  | unparsable (path : String)
  | badVariable (name value : String)
  | inconsistent (reason : String)
deriving DecidableEq, Repr

def ConfigError.message : ConfigError → String
  | .unreadable path reason => "cannot read config " ++ path ++ ": " ++ reason
  | .unparsable path => "cannot parse config " ++ path
  | .badVariable name value => "invalid value for " ++ name ++ ": " ++ value
  | .inconsistent reason => "invalid configuration: " ++ reason

/-- The settings of the log. -/
structure LogConfig where
  /-- The directory of the log files, the current one unless it is given. -/
  directory : Option String := none
  level : String := "info"
  /-- The number of older log files that are kept. -/
  retention : Nat := 7
  /-- A description of the log that takes the place of the built-in one. -/
  configFile : Option String := none
deriving DecidableEq, Repr

structure Config where
  dataPath : String := "cinelite.json"
  defaultPageSize : Nat := 10
  maxPageSize : Nat := 1000
  recordRequests : Bool := false
  slowQueryMs : Nat := 500
  log : LogConfig := {}
deriving DecidableEq, Repr

def LogConfig.apply (config : LogConfig) (layer : LogLayer) : LogConfig where
  directory := layer.directory <|> config.directory
  level := layer.level.getD config.level
  retention := layer.retention.getD config.retention
  configFile := layer.configFile <|> config.configFile

namespace Config

def apply (config : Config) (layer : Layer) : Config where
  dataPath := layer.dataPath.getD config.dataPath
  defaultPageSize := layer.defaultPageSize.getD config.defaultPageSize
  maxPageSize := layer.maxPageSize.getD config.maxPageSize
  recordRequests := layer.recordRequests.getD config.recordRequests
  slowQueryMs := layer.slowQueryMs.getD config.slowQueryMs
  log := config.log.apply layer.log

/-- The settings, provided that the page sizes agree. -/
def validate (config : Config) : Except ConfigError Config :=
  if config.maxPageSize = 0 then .error (.inconsistent "max_page_size must be positive")
  else if config.defaultPageSize = 0 ∨ config.maxPageSize < config.defaultPageSize then
    .error (.inconsistent
      ("default_page_size must be between 1 and " ++ Number.natText config.maxPageSize))
  else .ok config

/-- The settings of a file, the environment and the command line, each over the one before. -/
def layered (file : Option Layer) (environment overrides : Layer) : Except ConfigError Config :=
  ((({} : Config).apply (file.getD {})).apply environment |>.apply overrides).validate

/-- The page sizes that lists may have. -/
def pageLimits (config : Config) : Endpoint.PageLimits :=
  ⟨config.defaultPageSize, config.maxPageSize⟩

/-- The JSON object of all settings. -/
def toJson (config : Config) : Json :=
  .object
    [("data_path", .string config.dataPath),
     ("default_page_size", .int config.defaultPageSize),
     ("max_page_size", .int config.maxPageSize),
     ("record_requests", .bool config.recordRequests),
     ("slow_query_ms", .int config.slowQueryMs),
     ("log", .object
       [("dir", .ofOption .string config.log.directory),
        ("level", .string config.log.level),
        ("retention", .int config.log.retention),
        ("config_file", .ofOption .string config.log.configFile)])]

end Config

end MovieCatalogue.Settings

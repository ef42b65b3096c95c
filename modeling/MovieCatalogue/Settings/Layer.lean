import MovieCatalogue.Record.Shape

/-!
Contract: one source of settings.

Owns: `Layer`, in which every setting may be left open, and its JSON form. A
layer is an object whose members are all settings, or an array of settings in
order; every one that is missing or `null` is left open.
Does not own: where layers come from, and what they add up to; see
`Settings.Source` and `Settings.Basic`.
-/

namespace MovieCatalogue.Settings

open MovieCatalogue.Record

/-- What a source says about the log. -/
structure LogLayer where
  directory : Option String := none
  level : Option String := none
  retention : Option Nat := none
  configFile : Option String := none
deriving DecidableEq, Repr

/-- What a source says about all settings. -/
structure Layer where
  dataPath : Option String := none
  defaultPageSize : Option Nat := none
  maxPageSize : Option Nat := none
  recordRequests : Option Bool := none
  slowQueryMs : Option Nat := none
  log : LogLayer := {}
deriving DecidableEq, Repr

/-- A setting that is left open unless it is there. -/
def openPart {α : Type} (members : Fields Json) (name : String) (decoder : Decoder α) :
    Except DecodeError (Option α) :=
  Shape.withDefault members name (Decoder.optional decoder) none

namespace LogLayer

def shape : Shape :=
  [part "dir" (Decoder.optional Decoder.path),
   part "level" (Decoder.optional Decoder.text),
   part "retention" (Decoder.optional Decoder.size),
   part "config_file" (Decoder.optional Decoder.path)]

def ofJson (json : Json) : Except DecodeError LogLayer := do
  let members ← shape.onlyMembers "LogLayer" json
  return {
    directory := ← openPart members "dir" Decoder.path
    level := ← openPart members "level" Decoder.text
    retention := ← openPart members "retention" Decoder.size
    configFile := ← openPart members "config_file" Decoder.path }

/-- The JSON object of a layer, open settings being `null`. -/
def toJson (layer : LogLayer) : Json :=
  .object
    [("dir", .ofOption .string layer.directory),
     ("level", .ofOption .string layer.level),
     ("retention", .ofOption (.int ·) layer.retention),
     ("config_file", .ofOption .string layer.configFile)]

end LogLayer

namespace Layer

def shape : Shape :=
  [part "data_path" (Decoder.optional Decoder.path),
   part "default_page_size" (Decoder.optional Decoder.word),
   part "max_page_size" (Decoder.optional Decoder.word),
   part "record_requests" (Decoder.optional Decoder.bool),
   part "slow_query_ms" (Decoder.optional Decoder.word),
   part "log" LogLayer.ofJson]

def ofJson (json : Json) : Except DecodeError Layer := do
  let members ← shape.onlyMembers "ConfigLayer" json
  return {
    dataPath := ← openPart members "data_path" Decoder.path
    defaultPageSize := ← openPart members "default_page_size" Decoder.word
    maxPageSize := ← openPart members "max_page_size" Decoder.word
    recordRequests := ← openPart members "record_requests" Decoder.bool
    slowQueryMs := ← openPart members "slow_query_ms" Decoder.word
    log := ← Shape.withDefault members "log" LogLayer.ofJson {} }

/-- The JSON object of a layer, open settings being `null`. -/
def toJson (layer : Layer) : Json :=
  .object
    [("data_path", .ofOption .string layer.dataPath),
     ("default_page_size", .ofOption (.int ·) layer.defaultPageSize),
     ("max_page_size", .ofOption (.int ·) layer.maxPageSize),
     ("record_requests", .ofOption .bool layer.recordRequests),
     ("slow_query_ms", .ofOption (.int ·) layer.slowQueryMs),
     ("log", layer.log.toJson)]

end Layer

end MovieCatalogue.Settings

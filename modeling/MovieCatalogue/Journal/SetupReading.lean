import MovieCatalogue.Calendar.Duration
import MovieCatalogue.Journal.AppenderReading
import MovieCatalogue.Yaml.ContentReading
import MovieCatalogue.Yaml.Structure

/-!
Contract: logs from their descriptions.

Owns: the reading of a setup from a YAML document with appenders, a root and
loggers. A document of another shape is refused as a whole; where only an
appender or a filter cannot be built, that is left out with a complaint.
Does not own: what appenders may say, see `Journal.AppenderReading`; what is
complained about when files are opened, see `Shell.Log`.
-/

namespace MovieCatalogue.Journal

open MovieCatalogue.Record
open MovieCatalogue.Yaml (Content Decoding Spot)

/-- A log as it is described. -/
structure Description where
  setup : Setup
  complaints : List String := []

namespace Description

def decoded {α : Type} (step : Except DecodeError α) : Decoding α :=
  match step with
  | .ok value => return value
  | .error error => Spot.refuseError error

/-- Passes what may stand behind the name of a level: nothing. -/
def passNothing (spot : Spot) : Decoding Unit :=
  spot.locate do
    match spot.node with
    | .scalar _ _ style text =>
      if style = .plain && (text.isEmpty || Yaml.isNull text) then return
      else Spot.refuse ("invalid value: string " ++ Text.quoted text ++ ", expected null")
    | _ => spot.refuseKind "unit"

/-- A level by its name, without the place of the node itself if the name is its tag. -/
def levelAt (spot : Spot) : Decoding Level :=
  match spot.node.ownTag?, spot.node with
  | some tag, _ => do
    let level ← decoded (levelOf tag)
    passNothing spot
    return level
  | none, .scalar _ _ _ name => spot.locate (decoded (levelOf name))
  | none, _ => spot.locate (spot.refuseKind "a YAML tag starting with '!'")

/-- A level by its name, which may also be the tag of nothing. -/
def readLevel (spot : Spot) : Decoding Level :=
  match spot.node with
  | .alias _ _ => spot.locate do levelAt (← spot.follow)
  | _ => levelAt spot

def readNames (spot : Spot) : Decoding (List String) :=
  spot.items Spot.text

/-! ## Root and loggers -/

def rootSlots : List (Yaml.Slot Route) :=
  [.of "level" readLevel fun route level => { route with level := level },
   .of "appenders" readNames fun route names => { route with appenders := names }]

/-- The route of the root; without a level it takes lines up to `debug`. -/
def readRoot (spot : Spot) : Decoding Route :=
  spot.parts "Root" rootSlots ⟨.debug, []⟩ pure

/-- A logger as far as it is known. -/
structure PartialLogger where
  level : Option Level := none
  appenders : List String := []
  additive : Bool := true

def loggerSlots : List (Yaml.Slot PartialLogger) :=
  [.of "level" readLevel fun known level => { known with level := some level },
   .of "appenders" readNames fun known names => { known with appenders := names },
   .of "additive" Spot.bool fun known additive => { known with additive := additive }]

/-- A logger, which must have a level. -/
def readLogger (target : String) (spot : Spot) : Decoding Logger :=
  spot.parts "Logger" loggerSlots {} fun known => do
    return ⟨target, ← Spot.required "level" known.level, known.appenders, known.additive⟩

def readLoggers (spot : Spot) : Decoding (List Logger) := do
  return (← spot.members readLogger).map Prod.snd

/-! ## Appenders -/

/-- An appender; a fault in what is common to all kinds has no place of its own. -/
def readAppender (name : String) (spot : Spot) : Decoding AppenderPart := do
  decoded (AppenderPart.ofMembers name (← spot.contents))

def readAppenders (spot : Spot) : Decoding (List AppenderPart) := do
  return (← spot.members readAppender).map Prod.snd

/-! ## Durations -/

/-- Passes a text that names a duration. -/
def passDuration (text : String) : Decoding Unit :=
  match Calendar.readDuration text with
  | .ok _ => return
  | .error .beyond => throw .breakOff
  | .error fault => Spot.refuse fault.message

/-- Passes a node that is a duration. -/
def passDurationAt (spot : Spot) : Decoding Unit :=
  spot.locate do
    spot.refuseOwnTag "a duration"
    match spot.node with
    | .scalar _ tag style text =>
      match ← Spot.meaning tag style text with
      | .text text => passDuration text
      | meaning => Spot.refuseFor meaning.describe "a duration"
    | _ => spot.refuseKind "a duration"

/-- Whether a scalar is there, and not one that stands for nothing. -/
def isGiven (tag : Option Yaml.Tag) (style : Yaml.Style) (text : String) : Decoding Bool :=
  if style ≠ .plain then return true
  else if tag = some (Yaml.Tag.core "null") && !Yaml.isNull text then
    Spot.refuse ("invalid value: string " ++ Text.quoted text ++ ", expected null")
  else if tag.isNone || tag = some (Yaml.Tag.core "null") then
    return !(text.isEmpty || Yaml.isNull text)
  else return true

/-- Passes a node that is a duration, or nothing in the place of one. -/
def checkDuration (spot : Spot) : Decoding Unit := do
  let spot ← spot.follow
  match spot.node with
  | .scalar _ tag style text => if ← isGiven tag style text then passDurationAt spot
  | _ => passDurationAt spot

/-! ## Documents -/

/-- What a document tells about a log. -/
structure Outline where
  root : Route := ⟨.debug, []⟩
  appenders : List AppenderPart := []
  loggers : List Logger := []

def outlineSlots : List (Yaml.Slot Outline) :=
  [.of "refresh_rate" checkDuration fun outline _ => outline,
   .of "root" readRoot fun outline root => { outline with root := root },
   .of "appenders" readAppenders fun outline appenders => { outline with appenders := appenders },
   .of "loggers" readLoggers fun outline loggers => { outline with loggers := loggers }]

def Outline.description (outline : Outline) : Description :=
  let built := outline.appenders.map AppenderPart.build
  { setup := ⟨built.filterMap Prod.fst, ⟨outline.root, outline.loggers⟩⟩
    complaints := built.flatMap Prod.snd }

def outlineOf (document : Yaml.Document) : Except Yaml.Refusal Outline :=
  StateT.run' ((Spot.ofDocument document).parts "RawConfig" outlineSlots {} pure)
    (Spot.jumpsOf document)

/-- The description that a text holds, which must be that of a single document. -/
def ofText (text : String) : Except Yaml.Refusal Description := do
  let document := Yaml.Document.ofText text
  let outline ← outlineOf document
  if let some fault := document.fault then throw (.complete fault.message)
  if !document.single then
    throw (.complete "deserializing from YAML containing more than one document is not supported")
  return outline.description

end Description

end MovieCatalogue.Journal

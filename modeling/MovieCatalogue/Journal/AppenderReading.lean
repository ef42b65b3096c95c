import MovieCatalogue.Journal.RotationReading
import MovieCatalogue.Journal.Setup

/-!
Contract: appenders from their descriptions.

Owns: the appenders, encoders and filters that parts of a description stand for.
An appender of the right shape that cannot be built is left out with a complaint,
and so is a filter.
Does not own: documents, see `Journal.SetupReading`; the policies of files that
are put aside, see `Journal.RotationReading`.
-/

namespace MovieCatalogue.Journal

open MovieCatalogue.Record
open MovieCatalogue.Yaml (Content)

/-! ## Words of descriptions -/

def levelOf (name : String) : Except DecodeError Level :=
  match Level.ofName? name with
  | some level => .ok level
  | none => .error (.unknownVariant name (Level.all.map Level.name))

def levelVariant : ContentReading Level
  | .text name => levelOf name
  | content => ContentReading.numbered Level.all "log level filter" "log level filter" content

/-- A stream of a console appender by its name or its number. -/
def streamVariant : ContentReading Stream
  | .text "stdout" => .ok .output
  | .text "stderr" => .ok .errors
  | .text other => .error (.unknownVariant other ["stdout", "stderr"])
  | content =>
    ContentReading.numbered [.output, .errors] (Part.indexPhrase "variant" 2) "variant identifier" content

/-! ## Encoders -/

/-- The pattern of appenders without one of their own. -/
def defaultPattern : LinePattern :=
  LinePattern.ofText "\x7bd\x7d \x7bl\x7d \x7bt\x7d - \x7bm\x7d\x7bn\x7d"

def patternMembers : List (Part.Slot (Option String)) :=
  [.of "pattern" (.optional .text) fun _ pattern => pattern]

def encoderOf : Option Part → Attempt Encoder
  | none => .ok (.pattern defaultPattern)
  | some part =>
    match part.kind with
    | "pattern" => do
      let pattern ← worded (part.read patternMembers none)
      return .pattern ((pattern.map LinePattern.ofText).getD defaultPattern)
    | "json" => do
      worded (part.read [] ())
      return .json
    | _ => part.unknown "encoder"

def encoderPart : ContentReading (Option Part) :=
  .optional (Part.ofContent (some "pattern"))

/-! ## Appenders -/

/-- What is written for a file. -/
structure FileMembers where
  path : Option String := none
  encoder : Option Part := none
  keeps : Option Bool := none

def FileMembers.slots : List (Part.Slot FileMembers) :=
  [.of "path" .text fun known path => { known with path := some path },
   .of "encoder" encoderPart fun known encoder => { known with encoder := encoder },
   .of "append" (.optional .bool) fun known keeps => { known with keeps := keeps }]

def fileOutlet (part : Part) : Attempt (Outlet × Encoder) := do
  let members ← worded (part.read FileMembers.slots {})
  let path ← worded (requiredMember "path" members.path)
  return (.file path (members.keeps.getD true), ← encoderOf members.encoder)

/-- What is written for a standard output. -/
structure ConsoleMembers where
  stream : Option Stream := none
  encoder : Option Part := none
  terminal : Option Bool := none

def ConsoleMembers.slots : List (Part.Slot ConsoleMembers) :=
  [.of "target" (.optional (.choice streamVariant)) fun known stream =>
    { known with stream := stream },
   .of "encoder" encoderPart fun known encoder => { known with encoder := encoder },
   .of "tty_only" (.optional .bool) fun known terminal => { known with terminal := terminal }]

def consoleOutlet (part : Part) : Attempt (Outlet × Encoder) := do
  let members ← worded (part.read ConsoleMembers.slots {})
  let encoder ← encoderOf members.encoder
  return (.stream (members.stream.getD .output) (members.terminal.getD false), encoder)

/-- What is written for a file that is put aside by a policy. -/
structure RollingMembers where
  path : Option String := none
  keeps : Option Bool := none
  encoder : Option Part := none
  policy : Option Part := none

/-- The members of a file that is put aside by a policy. -/
def RollingMembers.slots : List (Part.Slot RollingMembers) :=
  [.of "path" .text fun known path => { known with path := some path },
   .of "append" (.optional .bool) fun known keeps => { known with keeps := keeps },
   .of "encoder" encoderPart fun known encoder => { known with encoder := encoder },
   .of "policy" (Part.ofContent (some "compound")) fun known policy =>
    { known with policy := some policy }]

/-- The outlet and encoder of a file that is put aside by a policy. -/
def rollingOutlet (part : Part) : Attempt (Outlet × Encoder) := do
  let members ← worded (part.read RollingMembers.slots {})
  let path ← worded (requiredMember "path" members.path)
  let policy ← worded (requiredMember "policy" members.policy)
  let encoder ← encoderOf members.encoder
  return (.rotated path (members.keeps.getD true) (← rotationOf policy), encoder)

/-- The outlet and encoder of an appender of some kind. -/
def outletOf (part : Part) : Attempt (Outlet × Encoder) :=
  match part.kind with
  | "file" => fileOutlet part
  | "console" => consoleOutlet part
  | "rolling_file" => rollingOutlet part
  | _ => part.unknown "appender"

def thresholdMembers : List (Part.Slot (Option Level)) :=
  [.of "level" (.choice levelVariant) fun _ level => some level]

def limitOf (part : Part) : Attempt Level :=
  match part.kind with
  | "threshold" => worded do requiredMember "level" (← part.readSome thresholdMembers none)
  | _ => part.unknown "filter"

/-- An appender as it is described. -/
structure AppenderPart where
  name : String
  filters : List Part
  part : Part

namespace AppenderPart

/-- An appender from its members, whatever its kind. -/
def ofMembers (name : String) (members : List (Content × Content)) :
    Except DecodeError AppenderPart := do
  let part ← Part.ofMembers none members
  let filters ←
    match Content.get? "filters" part.members with
    | some filters => ContentReading.sequence (Part.ofContent none) filters
    | none => .ok []
  return ⟨name, filters, { part with members := Content.erase "filters" part.members }⟩

/-- The limits of an appender, and a complaint for every filter that cannot be built. -/
def limits (described : AppenderPart) : List Level × List String :=
  let built := described.filters.map limitOf
  (built.filterMap Except.toOption,
    built.filterMap fun
      | .ok _ => none
      | .error reason =>
        some ("error deserializing filter attached to appender " ++ described.name ++ ": " ++ reason))

/-- The complaint about an appender that cannot be built. -/
def complaint (name reason : String) : String :=
  "error deserializing appender " ++ name ++ ": " ++ reason

/-- The appender, if it can be built, and the complaints about it. -/
def build (described : AppenderPart) : Option Appender × List String :=
  let (limits, complaints) := described.limits
  match outletOf described.part with
  | .ok (outlet, encoder) => (some ⟨described.name, outlet, encoder, limits⟩, complaints)
  | .error reason => (none, complaints ++ [complaint described.name reason])

end AppenderPart

end MovieCatalogue.Journal

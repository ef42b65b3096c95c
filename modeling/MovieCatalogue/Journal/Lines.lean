import MovieCatalogue.Journal.Level
import MovieCatalogue.Journal.Telemetry
import MovieCatalogue.Json.Printer

/-!
Contract: log lines.

Owns: the lines that an event writes, with their levels, targets and sites, and the
part of the program that each target stands for. Writes, query reports and developer
traces have targets of their own; every other line has its part of the program as
its target.
Does not own: where lines go, and how they are written; see `Journal.Routing` and
`Journal.LinePattern`.
-/

namespace MovieCatalogue.Journal

/-- The place that writes a line: a file and the number of a line in it. -/
structure Site where
  file : String
  number : Nat
deriving DecidableEq, Repr

/-- One line of a log. -/
structure Line where
  level : Level
  target : String
  /-- The message, in the pieces that it is worded in. -/
  message : List String
  site : Site
deriving DecidableEq, Repr

def Line.text (line : Line) : String :=
  String.join line.message

def auditTarget : String := "cinelite::audit"

def metricsTarget : String := "cinelite::metrics"

def developerTarget : String := "cinelite::dev"

def Line.origin (line : Line) : String :=
  if line.target = auditTarget ∨ line.target = metricsTarget then "cinelite::query::telemetry"
  else if line.target = developerTarget then "cinelite::utils::devlog"
  else line.target

def traceLine (event : Event) : List Line :=
  match event.trace? with
  | some message => [⟨.trace, developerTarget, [message], ⟨"src/utils/devlog.rs", 40⟩⟩]
  | none => []

/-- A place in the part of the program that accounts for queries and writes. -/
def telemetrySite (number : Nat) : Site := ⟨"src/query/telemetry.rs", number⟩

def telemetryLines (policy : Policy) (stamp : String) : Event → List Line
  | .paged read =>
    let report := policy.report read.run
    (if report.slow then
      [⟨.warn, metricsTarget,
        ["slow query on ", report.table, ": ", Number.natText report.duration, " ms (hash ",
          report.queryHash, ")"],
        telemetrySite 95⟩]
     else []) ++
    (policy.reports read.run).map fun report =>
      ⟨.info, metricsTarget, [(report.toJson (some stamp)).compact], telemetrySite 60⟩
  | .committed table changes =>
    [⟨.info, auditTarget,
      ["commit table=", table, " changes=", Number.natText changes], telemetrySite 119⟩]
  | _ => []

def Call.words (call : Call) : List String :=
  [call.method, " ", call.path]

/-- A line of the part that carries out operations on records. -/
def handlerLine (message : List String) (number : Nat) : Line :=
  ⟨.info, "cinelite::resource::handlers", message, ⟨"src/resource/handlers.rs", number⟩⟩

def requestLine (level : Level) (message : List String) (number : Nat) : Line :=
  ⟨level, "cinelite::api", message, ⟨"src/api/mod.rs", number⟩⟩

/-- A line of the part that reads and writes the data file. -/
def snapshotLine (message : List String) (number : Nat) : Line :=
  ⟨.info, "cinelite::store::snapshot", message, ⟨"src/store/snapshot.rs", number⟩⟩

/-- The lines that the parts of the program write about their own events. -/
def operationLines : Event → List Line
  | .rolledBack table changes =>
    [⟨.debug, "cinelite::store",
      ["rolled back ", Number.natText changes, " staged change(s) on ", table],
      ⟨"src/store/mod.rs", 147⟩⟩]
  | .created entity idSpec => [handlerLine ["created ", entity, " ", idSpec] 61]
  | .updated entity id => [handlerLine ["updated ", entity, " ", id] 96]
  | .deleted entity id => [handlerLine ["deleted ", entity, " ", id] 107]
  | .failed call error =>
    [requestLine .error (call.words ++ " failed: " :: error.words) 207]
  | .rejected call error =>
    [requestLine .debug (call.words ++ " rejected: " :: error.words) 208]
  | .answered call status =>
    [requestLine .info (call.words ++ [" -> ", Number.natText status]) 213]
  | .recordFailed error =>
    [requestLine .warn ("request log write failed: " :: error.words) 292]
  | .snapshotMissing path => [snapshotLine ["no snapshot at ", path, ", starting empty"] 46]
  | .snapshotLoaded rows path =>
    [snapshotLine ["loaded ", Number.natText rows, " row(s) from ", path] 68]
  | .snapshotSaved rows path =>
    [snapshotLine ["saved ", Number.natText rows, " row(s) to ", path] 33]
  | .commandFinished status =>
    [⟨.debug, "cinelite", ["command finished with status ", Number.natText status],
      ⟨"src/bin/cinelite.rs", 155⟩⟩]
  | _ => []

def Event.lines (policy : Policy) (stamp : String) (event : Event) : List Line :=
  traceLine event ++ telemetryLines policy stamp event ++ operationLines event

end MovieCatalogue.Journal

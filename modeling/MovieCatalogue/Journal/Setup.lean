import MovieCatalogue.Disk.Path
import MovieCatalogue.Journal.LinePattern
import MovieCatalogue.Journal.Rotation
import MovieCatalogue.Journal.Routing

/-!
Contract: logs as they are set up.

Owns: appenders, which write the lines that come to them to a file or to one of
the standard outputs; `Setup`, the appenders of a log with its routing; and the
setup of a run that describes none. In that one, writes and query reports have
files of their own, and so have developer traces if they are wanted; everything
else goes to the main file. A file that grows too long is put aside.
Does not own: opening and writing files, see `Shell.Log`; setups that are
described, see `Journal.SetupReading`.
-/

namespace MovieCatalogue.Journal

inductive Stream where
  | output
  | errors
deriving DecidableEq, Repr

/-- Where an appender writes. -/
inductive Outlet where
  /--
  To the end of a file, which is emptied before the first line unless `keeps` holds.
  Its path may hold a template for the present.
  -/
  | file (path : String) (keeps : Bool)
  /-- To a file that is put aside from time to time. -/
  | rotated (path : String) (keeps : Bool) (rotation : Rotation)
  /-- To a standard output, and perhaps only where a terminal reads it. -/
  | stream (stream : Stream) (terminalOnly : Bool)
deriving DecidableEq, Repr

/-- How an appender writes a line. -/
inductive Encoder where
  | pattern (pattern : LinePattern)
  | json

structure Appender where
  name : String
  outlet : Outlet
  encoder : Encoder
  /-- Levels that a line has to pass, all of them. -/
  limits : List Level := []

/-- Appenders with the routes that lead to them. -/
structure Setup where
  appenders : List Appender
  routing : Routing

/-- A line as a JSON object. -/
def Line.toJson (present : Calendar.LocalMoment) (line : Line) : Json :=
  .object
    [("time", .string (String.ofList (present.written Calendar.TemplateItem.isoMoment))),
     ("level", .string line.level.name),
     ("message", .string line.text),
     ("module_path", .string line.origin),
     ("file", .string line.site.file),
     ("line", .int line.site.number),
     ("target", .string line.target),
     ("thread", .string "main"),
     ("mdc", .object [])]

def Encoder.write (encoder : Encoder) (present : Calendar.LocalMoment) (line : Line) : Draft :=
  match encoder with
  | .pattern parts => LinePattern.write parts present line
  | .json => .ofText ((line.toJson present).compact ++ "\n").toList

def Appender.takes (appender : Appender) (line : Line) : Bool :=
  appender.limits.all fun limit => limit.passes line.level

/-! ## The setup of a run that describes none -/

/-- Date and time of day, with thousandths of seconds. -/
def standardMoment : Calendar.Template :=
  Calendar.TemplateItem.isoDate ++ [.text [' ']] ++ Calendar.TemplateItem.clock ++
    [.text ['.'], .fraction 3]

/-- The pattern of the built-in files: time, level, target and message. -/
def standardPattern : LinePattern :=
  let field (part : LineField) : LinePattern.Part := .field part {}
  [field (.moment standardMoment true), .text [' ', '['], field .level,
   .text [']', ' '], field .target, .text [' ', '-', ' '], field .message, field .lineBreak]

/-- What is logged: everything up to a level, and developer traces if they are wanted. -/
structure Verbosity where
  level : Level
  developer : Bool
deriving DecidableEq, Repr

namespace Setup

/-- The greatest length of a file in bytes. -/
def greatestSize : Nat := 10 * 2 ^ 20

/-- How many older files are kept: at least one, and no more than there are 32-bit words. -/
def keptFiles (retention : Nat) : Nat :=
  min (max retention 1) (2 ^ 32 - 1)

/-- Older files have numbers in their names. -/
def standardRotation (directory name : String) (retention : Nat) : Rotation where
  occasion := .size greatestSize
  fate := .numbered
    { pattern := Disk.inDirectory directory (name ++ ".\x7b\x7d.log"), count := keptFiles retention }

/-- A file that is called like its appender. -/
def standardAppender (directory : String) (retention : Nat) (name : String) : Appender where
  name := name
  outlet := .rotated (Disk.inDirectory directory (name ++ ".log")) true
    (standardRotation directory name retention)
  encoder := .pattern standardPattern

/-- The logger of a target that has a file of its own. -/
def standardLogger (target appender : String) (level : Level) : Logger where
  target := target
  level := level
  appenders := [appender]
  additive := false

def developerLogger (wanted : Bool) : Logger :=
  if wanted then standardLogger developerTarget "dev" .trace
  else { target := developerTarget, level := .off, additive := false }

/-- The setup of a run that describes none. -/
def standard (directory : String) (retention : Nat) (verbosity : Verbosity) : Setup where
  appenders :=
    (["app", "audit", "metrics"] ++ (if verbosity.developer then ["dev"] else [])).map
      (standardAppender directory retention)
  routing :=
    { root := ⟨verbosity.level, ["app"]⟩
      loggers :=
        [standardLogger auditTarget "audit" verbosity.level,
         standardLogger metricsTarget "metrics" verbosity.level,
         developerLogger verbosity.developer] }

end Setup

end MovieCatalogue.Journal

import MovieCatalogue.Shell.Log

/-!
Contract: what a run writes to its log.

Owns: the writing of the lines of events to the appenders that they are for, as
part of a run. A line that a file does not take is complained about. A line of which
the rest cannot be written breaks the run off, but what was written of it stays.
Does not own: which lines there are; see `Journal.Lines`.
-/

namespace MovieCatalogue.Shell

open MovieCatalogue.Journal

namespace Log

variable {m : Type → Type} {Handle : Type} [Monad m]

/-- Complains about a fault. -/
def complain (world : World m Handle) (reason : String) : Running m Handle Unit :=
  Running.say world .errors (complaintLines [reason])

/-- Breaks the run off behind a draft that is not whole. -/
def breakBehind (draft : Draft) : Running m Handle Unit :=
  if draft.isWhole then return else Running.breakOff

/-- Writes a draft to a file that is put aside from time to time. -/
def deliverRotated (world : World m Handle) (present : Calendar.LocalMoment) (draft : Draft)
    (file : RotatedFile Handle) : Running m Handle (RotatedFile Handle) := do
  let steps := RotatedFile.write world present draft
  let (outcome, file) ← Running.perform (StateT.run (ExceptT.run steps) file)
  match outcome with
  | .ok () => return file
  | .error (.failed reason) =>
    complain world reason
    return file
  | .error .broken => Running.breakOff

/-- Writes a draft to an outlet, which is given back as it is open then. -/
def deliver (world : World m Handle) (present : Calendar.LocalMoment) (draft : Draft) :
    OpenOutlet Handle → Running m Handle (OpenOutlet Handle)
  | .file handle => do
    match ← Running.perform (world.write handle draft.bytes) with
    | .ok handle =>
      breakBehind draft
      return .file handle
    | .error fault =>
      complain world fault.message
      return .file handle
  | .rotated file => return .rotated (← deliverRotated world present draft file)
  | .stream stream coloured => do
    Running.say world stream (draft.text coloured)
    breakBehind draft
    return .stream stream coloured
  | .nowhere => return .nowhere

/-- Writes a line to the first appender of a name, if there is one that takes it. -/
def deliverTo (world : World m Handle) (present : Calendar.LocalMoment) (line : Line)
    (name : String) :
    List (Appender × OpenOutlet Handle) → Running m Handle (List (Appender × OpenOutlet Handle))
  | [] => return []
  | (appender, outlet) :: others => do
    if appender.name == name then
      if appender.takes line then
        let draft := appender.encoder.write present line
        return (appender, ← deliver world present draft outlet) :: others
      else return (appender, outlet) :: others
    else return (appender, outlet) :: (← deliverTo world present line name others)

def writeTo (world : World m Handle) (present : Calendar.LocalMoment) (line : Line)
    (name : String) :
    Running m Handle Unit := do
  let appenders ← deliverTo world present line name (← get).appenders
  modify fun log => { log with appenders := appenders }

/-- Writes a line to all appenders that it is for. -/
def writeLine (world : World m Handle) (present : Calendar.LocalMoment) (line : Line) :
    Running m Handle Unit := do
  ((← get).routing.appendersOf line).forM (writeTo world present line)

def write (world : World m Handle) (present : Calendar.LocalMoment) (lines : List Line) :
    Running m Handle Unit :=
  lines.forM (writeLine world present)

end Log

end MovieCatalogue.Shell

import MovieCatalogue.Shell.Program
import Std.Time

/-!
Contract: the program itself.

Owns: everything that touches the world: the real variables, clock, files, input and
outputs, in which `Program.run` carries out the command line.
Does not own: any decision about what is read or written.
-/

namespace MovieCatalogue.Shell

open MovieCatalogue.Disk

def faultOf : IO.Error → Fault
  | .noFileOrDirectory .. => .notFound
  | .alreadyExists .. => .taken
  | .resourceBusy .. => .busy
  | .inappropriateType _ 20 _ => .notADirectory
  | .inappropriateType _ 21 _ => .isADirectory
  | .resourceExhausted _ 28 _ => .noSpace
  | .invalidArgument _ 36 _ => .nameTooLong
  | error => .other (toString error)

def tried {α : Type} (action : IO α) : IO (Except Fault α) := do
  match ← action.toBaseIO with
  | .ok value => return .ok value
  | .error error => return .error (faultOf error)

/-- Makes a directory and those above it. -/
def makeDirectories (path : String) : IO Unit := do
  if (names path).isEmpty then return else IO.FS.createDirAll path

/-- Replaces a file as a whole: it is written beside its place and then moved there. -/
def replaceFile (path : String) (bytes : ByteArray) : IO Unit := do
  if let some directory := parent? path then
    makeDirectories directory
  let draft := Tree.draftPath path
  IO.FS.writeBinFile draft bytes
  IO.setAccessRights draft { user := { read := true, write := true } }
  IO.FS.rename draft path

/-- Writes to an open file at once. -/
def writeBytes (file : IO.FS.Handle) (bytes : ByteArray) : IO IO.FS.Handle := do
  file.write bytes
  file.flush
  return file

/-- Whether a file is found at a path, and not something else. -/
def isFile (path : String) : IO Bool := do
  return (← (System.mkFilePath [path]).metadata).type matches .file

/-- Writes a text to a standard output at once. -/
def printTo (stream : IO.FS.Stream) (text : String) : IO Unit := do
  stream.putStr text
  stream.flush

def realWorld : World IO IO.FS.Handle where
  lookUp name := IO.getEnv name
  isPresent path := (System.mkFilePath [path]).pathExists
  isFile path := tried (isFile path)
  read path := tried (IO.FS.readBinFile path)
  makeDirectories path := tried (makeDirectories path)
  openEnd path := tried (IO.FS.Handle.mk path .append)
  openEmpty path := tried (IO.FS.Handle.mk path .write)
  write file bytes := tried (writeBytes file bytes)
  size path := tried (return (← (System.mkFilePath [path]).metadata).byteSize.toNat)
  move source target := tried (IO.FS.rename source target)
  remove path := tried (IO.FS.removeFile path)
  replace path bytes := tried (replaceFile path bytes)
  readInput := tried (do (← IO.getStdin).readBinToEnd)
  print text := do printTo (← IO.getStdout) text
  complain text := do printTo (← IO.getStderr) text

def readMoment : IO Calendar.Moment := do
  let now ← Std.Time.Timestamp.now
  return ⟨now.toMillisecondsSinceUnixEpoch.val.toNat⟩

def runProcess (arguments : List String) : IO UInt32 := do
  let code ← Program.run realWorld { arguments := arguments, moment := ← readMoment }
  return code.toUInt32

end MovieCatalogue.Shell

def main (arguments : List String) : IO UInt32 :=
  MovieCatalogue.Shell.runProcess arguments

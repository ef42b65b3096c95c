import MovieCatalogue.Journal.Piece
import MovieCatalogue.Journal.Rotation
import MovieCatalogue.Shell.PathTemplate
import MovieCatalogue.Text.Quoted

/-!
Contract: log files that are put aside while they are written.

Owns: `RotatedFile`, a log file that is closed when it is put aside and opened again
for the next line; and the steps that write a line to it and move older files.
Where a file cannot be moved it is copied. A place where nothing is found is passed
over, and what was done before a fault stays done.
Does not own: when a file is put aside, and where older files are; see
`Journal.Rotation`.
-/

namespace MovieCatalogue.Shell

open MovieCatalogue.Disk MovieCatalogue.Journal

/-- A log file that is put aside from time to time. -/
structure RotatedFile (Handle : Type) where
  path : String
  /-- Whether lines are added to a file that is there already. -/
  keeps : Bool
  rotation : Rotation
  /-- The file while it is open, with its length in bytes. -/
  current : Option (Handle × Nat) := none
  /-- Whether the occasion has not been looked for yet. -/
  isFresh : Bool := true

/-- Why a line is not written, or not followed by what should follow it. -/
inductive RotationFault where
  | failed (reason : String)
  /-- A time cannot be told or a number is too great, so the run cannot go on. -/
  | broken
deriving DecidableEq, Repr

namespace RotatedFile

variable {m : Type → Type} {Handle : Type} [Monad m]

/-- Steps on a file in a world, which end with the first fault. -/
abbrev Steps (m : Type → Type) (Handle : Type) :=
  ExceptT RotationFault (StateT (RotatedFile Handle) m)

/-- A step of the world that cannot fail. -/
def perform {α : Type} (step : m α) : Steps m Handle α :=
  ExceptT.lift (StateT.lift step)

def attempt {α : Type} (step : m (Except Fault α)) : Steps m Handle α := do
  match ← perform step with
  | .ok value => return value
  | .error fault => throw (.failed fault.message)

/-- Makes the directories above a path. -/
def makeParent (world : World m Handle) (path : String) : Steps m Handle Unit :=
  match parent? path with
  | some directory => attempt (world.makeDirectories directory)
  | none => return

/-! ## Putting aside -/

/-- Moves a file by a copy of its contents. -/
def copyOver (world : World m Handle) (source target : String) : Steps m Handle Unit := do
  if !(← attempt (world.isFile source)) then
    throw (.failed Fault.notAFile.message)
  let bytes ← attempt (world.read source)
  let handle ← attempt (world.openEmpty target)
  let _ ← attempt (world.write handle bytes)
  attempt (world.remove source)

/-- Moves what is found at a path, if anything is. -/
def moveOver (world : World m Handle) (source target : String) : Steps m Handle Unit := do
  match ← perform (world.move source target) with
  | .ok () | .error .notFound => return
  | .error _ => copyOver world source target

def placeOf (world : World m Handle) (window : Window) (number : Nat) : Steps m Handle String :=
  perform (expandVariables world (window.place number))

/-- Whether the places of a window, of which the first is given, are in directories of their own. -/
def hasDirectories (world : World m Handle) (window : Window) (first : String) :
    Steps m Handle Bool := do
  let pattern ← perform (expandVariables world window.pattern)
  match parent? first, parent? pattern with
  | some directory, some other => return directory != other
  | _, _ => return false

/-- Moves the file with a number to the next one, with or without a directory for it. -/
def moveUp (world : World m Handle) (window : Window) (needsDirectory : Bool) (number : Nat) :
    Steps m Handle Unit := do
  let source ← placeOf world window number
  let target ← placeOf world window (number + 1)
  if needsDirectory then
    makeParent world target
  moveOver world source target

/-- What is printed when a file cannot be moved to the first place. -/
def moveNote (path first : String) : String :=
  "err compressing: " ++ Text.quoted path ++ ", dst: " ++ Text.quoted first ++ "\n"

/-- Moves a file to the first place, or prints that it cannot be moved. -/
def moveFirst (world : World m Handle) (path first : String) : Steps m Handle Unit :=
  tryCatch (moveOver world path first) fun fault => do
    perform (world.print (moveNote path first))
    throw fault

/-- Gives a file the first number of a window, when the older ones have moved up. -/
def number (world : World m Handle) (window : Window) (path : String) : Steps m Handle Unit := do
  let first ← placeOf world window window.base
  makeParent world first
  if !window.isCountable then
    throw .broken
  let needsDirectory ← hasDirectories world window first
  window.movers.forM (moveUp world window needsDirectory)
  moveFirst world path first

/-- Closes the file and lets its fate take its course. -/
def putAside (world : World m Handle) : Steps m Handle Unit := do
  modify fun file => { file with current := none }
  let file ← get
  match file.rotation.fate with
  | .removed => attempt (world.remove file.path)
  | .numbered window =>
    if window.count = 0 then attempt (world.remove file.path)
    else number world window file.path

/-! ## Writing -/

def ensureOpen (world : World m Handle) : Steps m Handle (Handle × Nat) := do
  let file ← get
  match file.current with
  | some current => return current
  | none =>
    let handle ← attempt (if file.keeps then world.openEnd file.path else world.openEmpty file.path)
    let bytes ← if file.keeps then attempt (world.size file.path) else pure 0
    modify fun file => { file with current := some (handle, bytes) }
    return (handle, bytes)

/-- Adds to the file what there is to be written. -/
def append (world : World m Handle) (bytes : ByteArray) : Steps m Handle Unit := do
  let (handle, before) ← ensureOpen world
  let handle ← attempt (world.write handle bytes)
  modify fun file => { file with current := some (handle, before + bytes.size) }

/-- Puts the file aside if there is occasion to. -/
def rotate (world : World m Handle) (present : Calendar.LocalMoment) : Steps m Handle Unit := do
  let (_, bytes) ← ensureOpen world
  let file ← get
  set { file with isFresh := false }
  match file.rotation.occasion.arises? present file.isFresh bytes with
  | some true => putAside world
  | some false => return
  | none => throw .broken

/-- Puts the file aside if there is occasion to before the next line. -/
def prepare (world : World m Handle) (present : Calendar.LocalMoment) : Steps m Handle Unit := do
  if (← get).rotation.occasion.isBefore then
    rotate world present

/-- Writes a line, before or after the file is put aside. -/
def write (world : World m Handle) (present : Calendar.LocalMoment) (draft : Draft) :
    Steps m Handle Unit := do
  prepare world present
  append world draft.bytes
  if !draft.isWhole then
    throw .broken
  if !(← get).rotation.occasion.isBefore then
    rotate world present

/-- A file at a path that is not open yet. -/
def closed (path : String) (keeps : Bool) (rotation : Rotation) : RotatedFile Handle :=
  { path := path, keeps := keeps, rotation := rotation }

/-- Opens the file, with the directories above it. -/
def openFirst (world : World m Handle) : Steps m Handle Unit := do
  makeParent world (← get).path
  let _ ← ensureOpen world

end RotatedFile

end MovieCatalogue.Shell

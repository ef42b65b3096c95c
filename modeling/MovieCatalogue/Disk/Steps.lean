import MovieCatalogue.Disk.Move

/-!
Contract: changes of a directory tree, one after the other.

Owns: `Tree.Steps`, changes of which those before a fault stay; directories with
those above them; the opening of files; and the replacement of a file as a whole.
Does not own: the single changes; see `Disk.Change` and `Disk.Move`.
-/

namespace MovieCatalogue.Disk.Tree

/-- Steps on a tree; what was done before a fault stays done. -/
abbrev Steps := ExceptT Fault (StateM Tree)

namespace Steps

def take {α : Type} (change : Tree → Except Fault (α × Tree)) : Steps α := do
  match change (← get) with
  | .ok (value, after) =>
    set after
    return value
  | .error fault => throw fault

/-- A step that gives nothing back. -/
def go (change : Tree → Except Fault Tree) : Steps Unit :=
  take fun tree => (change tree).map fun after => ((), after)

end Steps

/-! ## Directories -/

/-- Makes one directory unless it is there. -/
def needDirectory (path : String) : Steps Unit :=
  tryCatch (Steps.go fun tree => tree.makeDirectory path) fun fault => do
    if fault = .taken ∧ (← get).isDirectory path then return else throw fault

/-- Makes a directory unless it is there, given the paths above it, the innermost first. -/
def needDirectories (path : String) : List String → Steps Unit
  | [] => needDirectory path
  | above :: others =>
    tryCatch (needDirectory path) fun fault => do
      if fault = .notFound then
        needDirectories above others
        needDirectory path
      else throw fault

/-- Makes a directory and those above it. -/
def makeDirectories (path : String) : Steps Unit :=
  if (names path).isEmpty then return else needDirectories path (ancestors path)

def makeParent (path : String) : Steps Unit :=
  match parent? path with
  | some directory => makeDirectories directory
  | none => return

/-! ## Files -/

def openEnd (path : String) : Steps OpenFile := do
  match ← Steps.take fun tree => tree.needFile path with
  | .file number => return .file number none
  | .device device => return .device device
  | .directory => throw .isADirectory

def openEmpty (path : String) : Steps OpenFile := do
  match ← Steps.take fun tree => tree.needFile path with
  | .file number =>
    modify fun tree => tree.fill number .empty
    return .file number (some 0)
  | .device device => return .device device
  | .directory => throw .isADirectory

/-- Empties the file at a path and writes bytes to it. -/
def refill (path : String) (bytes : ByteArray) : Steps Unit := do
  if let .file number _ ← openEmpty path then
    modify fun tree => tree.fill number bytes

/-- The path at which a file is written before it takes its place. -/
def draftPath (path : String) : String :=
  path ++ ".tmp"

/-- Writes a file beside its place and moves it there. -/
def replaceFile (path : String) (bytes : ByteArray) : Steps Unit := do
  makeParent path
  refill (draftPath path) bytes
  Steps.go fun tree => tree.move (draftPath path) path

/-- Puts a file into a tree, with the directories on the way. -/
def addFile (tree : Tree) (path : String) (bytes : ByteArray) : Tree :=
  let steps : Steps Unit := do
    makeParent path
    refill path bytes
  (steps.run tree).2

end MovieCatalogue.Disk.Tree

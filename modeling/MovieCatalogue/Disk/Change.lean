import MovieCatalogue.Disk.Tree

/-!
Contract: single changes of a directory tree.

Owns: making a directory, opening a file, which is made if nothing is there, writing
to it and removing it; and why each of them is refused. An open file is written
either at its end or from a position on, which does not change when the file is
written elsewhere.
Does not own: moves, see `Disk.Move`; changes one after the other, see `Disk.Steps`.
-/

namespace MovieCatalogue.Disk

inductive OpenFile where
  /-- A file with the place of the next bytes; without one they are written at its end. -/
  | file (number : Nat) (position : Option Nat)
  | device (device : Device)
deriving DecidableEq, Repr

/-- Whether a segment is no name of its own but leads back into the directories of a path. -/
def isWayBack (segment : String) : Bool :=
  !isName segment || segment == ".."

/-- Whether a path ends with a slash that is not all of it. -/
def endsWithSlash (path : String) : Bool :=
  withoutSlashes path != path

namespace Tree

/-- Puts something new at a place, unless its file system refuses that. -/
def make (tree : Tree) (place : Place) (entry : Entry) (refusal : Mount → Option Fault) :
    Except Fault Tree :=
  match (tree.mount? place).bind refusal with
  | some fault => .error fault
  | none => .ok (tree.put place entry)

/-- Makes one directory, in one that is there. -/
def makeDirectory (tree : Tree) (path : String) : Except Fault Tree := do
  let place ← tree.walk (withoutSlashes path)
  match tree.lookUp? place with
  | some _ => throw .taken
  | none => tree.make place .directory Mount.noDirectory

/-- What is found at a path where a file is opened; a file is made if there is nothing. -/
def needFile (tree : Tree) (path : String) : Except Fault (Entry × Tree) := do
  let (directory, name) ← tree.walkAbove path
  if isWayBack name || endsWithSlash path then throw .isADirectory
  let place ← tree.step directory name
  match tree.lookUp? place with
  | some .directory => throw .isADirectory
  | some (.device .terminal) => throw .noDevice
  | some entry => return (entry, tree)
  | none =>
    let entry : Entry := .file tree.contents.length
    let after ← tree.make place entry Mount.noFile
    return (entry, { after with contents := tree.contents ++ [.empty] })

/-- Writes bytes to an open file, which is open behind them then. -/
def write (tree : Tree) (number : Nat) (position : Option Nat) (bytes : ByteArray) :
    OpenFile × Tree :=
  let before := tree.content number
  (.file number (position.map (· + bytes.size)),
    tree.fill number (overwrite before (position.getD before.size) bytes))

def removeFile (tree : Tree) (path : String) : Except Fault Tree := do
  let place ← tree.walk (withoutSlashes path)
  match tree.lookUp? place with
  | some .directory => throw .isADirectory
  | some _ => if endsWithSlash path then throw .notADirectory else return tree.remove place
  | none => throw .notFound

end Tree

end MovieCatalogue.Disk

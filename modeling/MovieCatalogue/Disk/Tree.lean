import MovieCatalogue.Disk.Bytes
import MovieCatalogue.Disk.Fault
import MovieCatalogue.Disk.Path

/-!
Contract: a directory tree as data.

Owns: `Tree`, which holds directories, files and devices under their places, with
the places where other file systems start; and the ways that paths lead through it.
A file has a number apart from its place, so a file that is open stays the same
file when another one takes its place.
Does not own: changes of a tree, see `Disk.Change` and `Disk.Move`; real
directories, see `Main`.
-/

namespace MovieCatalogue.Disk

/-- A place in a tree: the names that lead to it from the root, the innermost first. -/
abbrev Place := List String

/-- What stands in a tree and is read and written, but is no file. -/
inductive Device where
  /-- Where everything may be written and is lost. -/
  | nowhere
  /-- Where nothing can be written. -/
  | full
  /-- The terminal of a run, which has none. -/
  | terminal
  | standardInput
  | standardOutput
  | standardErrors
deriving DecidableEq, Repr

/-- What is found at a place. -/
inductive Entry where
  | directory
  | file (number : Nat)
  | device (device : Device)
deriving DecidableEq, Repr

/-- A place where another file system starts. -/
structure Mount where
  place : Place
  /-- Why no file can be made there, if none can. -/
  noFile : Option Fault := none
  /-- Why no directory can be made there, if none can. -/
  noDirectory : Option Fault := none
deriving DecidableEq, Repr

structure Tree where
  entries : List (Place × Entry) := []
  /-- The contents of the files by their numbers. -/
  contents : List ByteArray := []
  mounts : List Mount := []
  /-- The current directory. -/
  here : Place := []
deriving DecidableEq

/-- The greatest length of a name in bytes. -/
def longestName : Nat := 255

/-- The greatest length of a path in bytes. -/
def longestPath : Nat := 4095

namespace Tree

/-! ## Looking -/

/-- What is found at a place; the root is a directory. -/
def lookUp? (tree : Tree) (place : Place) : Option Entry :=
  match place with
  | [] => some .directory
  | _ => (tree.entries.find? fun entry => entry.1 == place).map Prod.snd

/-- A way leads on only from a directory. -/
def enter (tree : Tree) (place : Place) : Except Fault Unit :=
  match tree.lookUp? place with
  | some .directory => .ok ()
  | some _ => .error .notADirectory
  | none => .error .notFound

def step (tree : Tree) (place : Place) (segment : String) : Except Fault Place := do
  tree.enter place
  if !isName segment then return place
  else if segment = ".." then return place.drop 1
  else if longestName < segment.utf8ByteSize then throw .nameTooLong
  else return segment :: place

/-- Refuses a path that leads nowhere in any tree. -/
def checkPath (path : String) : Except Fault Unit :=
  if path.toList.contains '\x00' then .error .badPath
  else if path.isEmpty then .error .notFound
  else if longestPath < path.utf8ByteSize then .error .nameTooLong
  else .ok ()

/-- Some segments further from where a path starts. -/
def follow (tree : Tree) (path : String) (segments : List String) : Except Fault Place :=
  segments.foldlM tree.step (if isAbsolute path then [] else tree.here)

/-- The place that a path leads to; nothing need be found there. -/
def walk (tree : Tree) (path : String) : Except Fault Place := do
  checkPath path
  tree.follow path (segments path)

/-- The directory in which the last segment of a path is looked up, and that segment. -/
def walkAbove (tree : Tree) (path : String) : Except Fault (Place × String) := do
  checkPath path
  let all := segments (withoutSlashes path)
  let directory ← tree.follow path all.dropLast
  tree.enter directory
  return (directory, all.getLast?.getD "")

def find (tree : Tree) (path : String) : Except Fault Entry := do
  match tree.lookUp? (← tree.walk path) with
  | some entry => return entry
  | none => throw .notFound

def isPresent (tree : Tree) (path : String) : Bool :=
  (tree.find path).isOk

def isDirectory (tree : Tree) (path : String) : Bool :=
  match tree.find path with
  | .ok .directory => true
  | _ => false

/-- Whether anything is found below a place. -/
def isFilled (tree : Tree) (place : Place) : Bool :=
  tree.entries.any fun entry => entry.1 != place && place.isSuffixOf entry.1

def content (tree : Tree) (number : Nat) : ByteArray :=
  tree.contents.getD number .empty

/-- The contents of the file at a path; a device has none. -/
def read (tree : Tree) (path : String) : Except Fault ByteArray := do
  match ← tree.find path with
  | .directory => throw .isADirectory
  | .file number => return tree.content number
  | .device .terminal => throw .noDevice
  | .device _ => return .empty

/-! ## File systems -/

/-- The innermost file system that a place is in, unless that is the one of the root. -/
def mount? (tree : Tree) (place : Place) : Option Mount :=
  (tree.mounts.filter fun mount => mount.place.isSuffixOf place).foldl
    (fun found mount =>
      if found.any fun other => mount.place.length < other.place.length then found else some mount)
    none

def isMount (tree : Tree) (place : Place) : Bool :=
  tree.mounts.any fun mount => mount.place == place

/-! ## Entries -/

def put (tree : Tree) (place : Place) (entry : Entry) : Tree :=
  { tree with entries := (place, entry) :: tree.entries.filter fun other => other.1 != place }

/-- What was put at a place is found there, unless the place is the root. -/
theorem lookUp?_put_self (tree : Tree) {place : Place} (entry : Entry) (inner : place ≠ []) :
    (tree.put place entry).lookUp? place = some entry := by
  cases place with
  | nil => exact absurd rfl inner
  | cons name outer => simp [lookUp?, put]

/-- Other places are left alone. -/
theorem lookUp?_put_of_ne (tree : Tree) {place other : Place} (entry : Entry)
    (different : other ≠ place) : (tree.put place entry).lookUp? other = tree.lookUp? other := by
  cases other with
  | nil => rfl
  | cons name outer =>
      have unequal : (place == name :: outer) = false := by
        simpa using different.symm
      have kept : (fun found : Place × Entry =>
          decide ((found.1 != place) = true ∧ (found.1 == name :: outer) = true)) =
            fun found => found.1 == name :: outer := by
        funext found
        by_cases same : found.1 = name :: outer <;> simp [same, different]
      simp only [lookUp?, put, List.find?_cons, unequal, List.find?_filter]
      rw [kept]

/-- Leaves nothing at a place. -/
def remove (tree : Tree) (place : Place) : Tree :=
  { tree with entries := tree.entries.filter fun other => other.1 != place }

def fill (tree : Tree) (number : Nat) (bytes : ByteArray) : Tree :=
  { tree with contents := tree.contents.set number bytes }

end Tree

end MovieCatalogue.Disk

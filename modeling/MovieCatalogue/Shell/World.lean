import MovieCatalogue.Settings.Source
import MovieCatalogue.Shell.Scene
import MovieCatalogue.Storage.File

/-!
Contract: what a run finds around it.

Owns: `World`, the variables, the files and the standard input and outputs that a
run looks up and changes, as operations over any monad; and the world that consists
of variables and a scene.
Does not own: the real world; see `Main`.
-/

namespace MovieCatalogue.Shell

open MovieCatalogue.Disk MovieCatalogue.Settings MovieCatalogue.Storage

/-- Variables, files, of which the open ones have handles, and the standard input and outputs. -/
structure World (m : Type → Type) (Handle : Type) where
  lookUp : String → m (Option String)
  isPresent : String → m Bool
  /-- Whether a file is found at a path, and not something else. -/
  isFile : String → m (Except Fault Bool)
  read : String → m (Except Fault ByteArray)
  /-- Makes a directory and those above it, unless they are there. -/
  makeDirectories : String → m (Except Fault Unit)
  /-- Opens a file at its end; it is made if nothing is there. -/
  openEnd : String → m (Except Fault Handle)
  /-- Opens a file that is empty then; it is made if nothing is there. -/
  openEmpty : String → m (Except Fault Handle)
  /-- Writes bytes to an open file, and gives it back as it is open then. -/
  write : Handle → ByteArray → m (Except Fault Handle)
  /-- The length of a file in bytes. -/
  size : String → m (Except Fault Nat)
  /-- Moves what is found at a path to another path. -/
  move : String → String → m (Except Fault Unit)
  /-- Removes a file. -/
  remove : String → m (Except Fault Unit)
  /-- Replaces a file as a whole, with the directories above it. -/
  replace : String → ByteArray → m (Except Fault Unit)
  /-- All that is left of the standard input. -/
  readInput : m (Except Fault ByteArray)
  /-- Writes to the standard output. -/
  print : String → m Unit
  /-- Writes to the standard error output. -/
  complain : String → m Unit

namespace World

variable {m : Type → Type} {Handle : Type} [Monad m]

def environment (world : World m Handle) : m Environment :=
  variableNames.filterMapM fun name => do
    return (← world.lookUp name).map fun value => (name, value)

/-- The text that bytes stand for. -/
def textOf (bytes : ByteArray) : Except Fault String :=
  match String.fromUTF8? bytes with
  | some text => .ok text
  | none => .error .notText

def readText (world : World m Handle) (path : String) : m (Except Fault String) := do
  return (← world.read path).bind textOf

def state (world : World m Handle) (path : String) : m FileState := do
  if ← world.isPresent path then
    match ← world.read path with
    | .ok bytes => return .ofBytes bytes
    | .error fault => return .unreadable fault.message
  else return .missing

def inputText (world : World m Handle) : m (Except Fault String) := do
  return (← world.readInput).bind textOf

def onTree {α : Type} (steps : Tree.Steps α) : StateM Scene (Except Fault α) :=
  modifyGet fun scene =>
    let (outcome, tree) := steps.run scene.tree
    (outcome, { scene with tree := tree })

def ofScene (environment : Environment) : World (StateM Scene) OpenFile where
  lookUp name := return environment.get? name
  isPresent path := return (← get).tree.isPresent path
  isFile path := return ((← get).tree.find path).map fun entry => entry matches .file _
  read path := modifyGet fun scene => scene.read path
  makeDirectories path := onTree (Tree.makeDirectories path)
  openEnd path := onTree (Tree.openEnd path)
  openEmpty path := onTree (Tree.openEmpty path)
  write file bytes := modifyGet fun scene =>
    match scene.write file bytes with
    | .ok (file, after) => (.ok file, after)
    | .error fault => (.error fault, scene)
  size path := return ((← get).tree.read path).map ByteArray.size
  move source target := onTree (Tree.Steps.go fun tree => tree.move source target)
  remove path := onTree (Tree.Steps.go fun tree => tree.removeFile path)
  replace path bytes := onTree (Tree.replaceFile path bytes)
  readInput := modifyGet fun scene =>
    let (bytes, after) := scene.takeInput
    (.ok bytes, after)
  print text := modify fun scene => { scene with output := scene.output ++ text.toUTF8 }
  complain text := modify fun scene => { scene with errors := scene.errors ++ text.toUTF8 }

end World

end MovieCatalogue.Shell

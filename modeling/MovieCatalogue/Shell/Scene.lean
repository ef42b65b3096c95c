import MovieCatalogue.Disk.Steps

/-!
Contract: the surroundings of a run as data.

Owns: `Scene`, a directory tree with what is left of the standard input and what was
written to the standard outputs; and reading and writing in it, where devices in
the tree lead to those.
Does not own: what a run does in its surroundings; see `Shell.World`.
-/

namespace MovieCatalogue.Shell

open MovieCatalogue.Disk

/-- A directory tree with the standard input and the standard outputs. -/
structure Scene where
  tree : Tree := {}
  /-- What has not been read of the standard input. -/
  input : ByteArray := .empty
  output : ByteArray := .empty
  errors : ByteArray := .empty
deriving DecidableEq

namespace Scene

/-- All that is left of the standard input, which is read only once. -/
def takeInput (scene : Scene) : ByteArray × Scene :=
  (scene.input, { scene with input := .empty })

def read (scene : Scene) (path : String) : Except Fault ByteArray × Scene :=
  match scene.tree.find path with
  | .ok (.device .standardInput) =>
    let (bytes, after) := scene.takeInput
    (.ok bytes, after)
  | _ => (scene.tree.read path, scene)

def writeDevice (scene : Scene) (device : Device) (bytes : ByteArray) : Except Fault Scene :=
  match device with
  | .standardOutput => .ok { scene with output := scene.output ++ bytes }
  | .standardErrors => .ok { scene with errors := scene.errors ++ bytes }
  | .nowhere | .terminal | .standardInput => .ok scene
  | .full => if bytes.isEmpty then .ok scene else .error .noSpace

/-- Writes to what is open, and gives it back as it is open then. -/
def write (scene : Scene) (file : OpenFile) (bytes : ByteArray) :
    Except Fault (OpenFile × Scene) :=
  match file with
  | .file number position =>
    let (file, tree) := scene.tree.write number position bytes
    .ok (file, { scene with tree := tree })
  | .device device => (scene.writeDevice device bytes).map fun after => (file, after)

/-- What is written to the standard output is found at its end, and nothing else is changed. -/
theorem writeDevice_standardOutput (scene : Scene) (bytes : ByteArray) :
    scene.writeDevice .standardOutput bytes =
      .ok { scene with output := scene.output ++ bytes } := rfl

end Scene

end MovieCatalogue.Shell

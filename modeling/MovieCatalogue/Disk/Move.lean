import MovieCatalogue.Disk.Change

/-!
Contract: moves within a directory tree.

Owns: the move of what is found at one path to another one, with all that is below
it; and why it is refused. A file or device takes the place of another one, a
directory only that of an empty one, and nothing leaves its file system.
Does not own: moves by a copy; see `Shell.RotatedFile`.
-/

namespace MovieCatalogue.Disk

/-- The place that something has when what is found at `start` is moved to `goal`. -/
def movedPlace (start goal place : Place) : Place :=
  if start.isSuffixOf place then place.take (place.length - start.length) ++ goal else place

/-- What is moved itself is at the goal then. -/
theorem movedPlace_self (start goal : Place) : movedPlace start goal start = goal := by
  simp [movedPlace]

/-- What is neither moved nor below it stays where it is. -/
theorem movedPlace_of_not_suffix {start goal place : Place} (elsewhere : ¬ start <:+ place) :
    movedPlace start goal place = place := by
  simp [movedPlace, List.isSuffixOf_iff_suffix, elsewhere]

namespace Tree

/-- The tree after a move to a place with nothing below it. -/
def moveAll (tree : Tree) (start goal : Place) : Tree :=
  let cleared := tree.remove goal
  { cleared with
    entries := cleared.entries.map fun entry => (movedPlace start goal entry.1, entry.2)
    here := movedPlace start goal cleared.here }

/-- Moves what is found at a place to another place, where something else may be found. -/
def moveBetween (tree : Tree) (start goal : Place) (entry : Entry) : Except Fault Tree :=
  match entry, tree.lookUp? goal with
  | .directory, some (.file _) | .directory, some (.device _) => .error .notADirectory
  | .file _, some .directory | .device _, some .directory => .error .isADirectory
  | _, _ =>
    if tree.isMount start || tree.isMount goal then .error .busy
    else if tree.isFilled goal then .error .notEmpty
    else .ok (tree.moveAll start goal)

/-- Moves what is found at a path to another path. -/
def move (tree : Tree) (source target : String) : Except Fault Tree := do
  let (oldDirectory, oldName) ← tree.walkAbove source
  let (newDirectory, newName) ← tree.walkAbove target
  if tree.mount? oldDirectory != tree.mount? newDirectory then throw .crossDevice
  if isWayBack oldName || isWayBack newName then throw .busy
  let start ← tree.step oldDirectory oldName
  let some entry := tree.lookUp? start | throw .notFound
  let goal ← tree.step newDirectory newName
  if entry != .directory && (endsWithSlash source || endsWithSlash target) then
    throw .notADirectory
  if start.isSuffixOf newDirectory then throw .withinItself
  if goal.isSuffixOf oldDirectory then throw .notEmpty
  if start = goal then return tree
  tree.moveBetween start goal entry

end Tree

end MovieCatalogue.Disk

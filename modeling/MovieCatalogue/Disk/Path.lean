import MovieCatalogue.Text.Cut

/-!
Contract: paths as texts.

Owns: the segments of a path between its slashes; its names, which are the
segments that lead somewhere; the paths that lead to it; the extension of a file
name; and the path of a file in a directory. Empty segments and single dots lead
nowhere, but for a dot at the start of a relative path, which is a name.
Does not own: what is found at a path; see `Disk.Tree`.
-/

namespace MovieCatalogue.Disk

/-- The parts between the slashes. -/
def segments (path : String) : List String :=
  (Text.splitOn '/' path.toList).map String.ofList

def isAbsolute (path : String) : Bool :=
  path.toList.head? == some '/'

def isName (segment : String) : Bool :=
  segment != "" && segment != "."

/-- The names of a path, the outermost first. -/
def names (path : String) : List String :=
  match segments path with
  | "." :: others => "." :: others.filter isName
  | all => all.filter isName

def pathOf (absolute : Bool) (names : List String) : String :=
  (if absolute then "/" else "") ++ Text.join "/" names

/-- The path one level up; the root and the empty path have none. -/
def parent? (path : String) : Option String :=
  match names path with
  | [] => none
  | all => some (pathOf (isAbsolute path) all.dropLast)

/-- The paths above a path, but for the root and the current directory, the innermost first. -/
def ancestors (path : String) : List String :=
  let all := names path
  (List.range (all.length - 1)).reverse.map fun count =>
    pathOf (isAbsolute path) (all.take (count + 1))

/-- A path without the slashes at its end, unless it consists of slashes. -/
def withoutSlashes (path : String) : String :=
  let kept := (path.toList.reverse.dropWhile (· == '/')).reverse
  if kept.isEmpty then path else String.ofList kept

def fileName? (path : String) : Option String :=
  (names path).getLast?.filter fun name => name != "." && name != ".."

/-- What follows the last dot of a file name; a dot at its start does not count. -/
def extension? (path : String) : Option String :=
  match (fileName? path).map fun name => Text.splitOn '.' name.toList with
  | some parts =>
    if parts.dropLast == [] || parts.dropLast == [[]] then none
    else parts.getLast?.map String.ofList
  | none => none

def inDirectory (directory name : String) : String :=
  if directory.isEmpty || directory.endsWith "/" then directory ++ name
  else directory ++ "/" ++ name

end MovieCatalogue.Disk

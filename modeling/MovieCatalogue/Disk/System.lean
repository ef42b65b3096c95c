import MovieCatalogue.Disk.Steps

/-!
Contract: what a directory tree holds before anything is put into it.

Owns: the directories, devices and file systems that every system has. The standard
input and outputs have several names.
Does not own: what a run finds beside them; see `Shell.Scene`.
-/

namespace MovieCatalogue.Disk.Tree

/-- The directories of a system, the outer ones before the inner ones. -/
def systemDirectories : List Place :=
  [["bin"], ["dev"], ["etc"], ["home"], ["lib"], ["opt"], ["proc"], ["root"], ["run"], ["sys"],
   ["tmp"], ["usr"], ["var"], ["fd", "dev"], ["pts", "dev"], ["shm", "dev"], ["self", "proc"],
   ["fd", "self", "proc"]]

/-- The standard input and outputs by their numbers, in a directory of such numbers. -/
def numberedDevices (directory : Place) : List (Place × Device) :=
  [("0" :: directory, .standardInput), ("1" :: directory, .standardOutput),
   ("2" :: directory, .standardErrors)]

def systemDevices : List (Place × Device) :=
  [(["null", "dev"], .nowhere), (["zero", "dev"], .nowhere), (["random", "dev"], .nowhere),
   (["urandom", "dev"], .nowhere), (["full", "dev"], .full), (["tty", "dev"], .terminal),
   (["stdin", "dev"], .standardInput), (["stdout", "dev"], .standardOutput),
   (["stderr", "dev"], .standardErrors)] ++
  numberedDevices ["fd", "dev"] ++ numberedDevices ["fd", "self", "proc"]

/-- A file system in which nothing can be made. -/
def closedMount (place : Place) (noFile noDirectory : Fault) : Mount :=
  ⟨place, some noFile, some noDirectory⟩

/-- The file systems beside that of the root. -/
def systemMounts : List Mount :=
  [{ place := ["dev"] }, { place := ["shm", "dev"] },
   closedMount ["fd", "dev"] .notFound .notFound, closedMount ["proc"] .notFound .notFound,
   closedMount ["pts", "dev"] .denied .notPermitted, closedMount ["sys"] .denied .notPermitted]

/-- A tree with what every system has, and a current directory. -/
def system (here : Place) : Tree :=
  let bare : Tree := { mounts := systemMounts, here := here }
  let furnished := (here :: systemDirectories).foldl (fun tree place => tree.put place .directory) bare
  systemDevices.foldl (fun tree entry => tree.put entry.1 (.device entry.2)) furnished

end MovieCatalogue.Disk.Tree

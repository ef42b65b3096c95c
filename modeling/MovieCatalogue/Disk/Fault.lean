/-!
Contract: why a step on a directory tree fails.

Owns: `Fault`, the causes for which a step on directories and files is refused, and
their texts.
Does not own: which step meets which cause; see `Disk.Tree`.
-/

namespace MovieCatalogue.Disk

/-- Why a step on a tree fails. -/
inductive Fault where
  | notPermitted
  | notFound
  /-- A device that leads nowhere. -/
  | noDevice
  | denied
  | busy
  | taken
  /-- A way from one file system to another one, where there must be none. -/
  | crossDevice
  | notADirectory
  | isADirectory
  /-- A directory that would stand within itself. -/
  | withinItself
  | noSpace
  | nameTooLong
  | notEmpty
  /-- A path that holds the null character. -/
  | badPath
  /-- Something that is no file in the place of one that is copied. -/
  | notAFile
  /-- A file that holds no text. -/
  | notText
  | other (reason : String)
deriving DecidableEq, Repr

def Fault.message : Fault → String
  | .notPermitted => "Operation not permitted (os error 1)"
  | .notFound => "No such file or directory (os error 2)"
  | .noDevice => "No such device or address (os error 6)"
  | .denied => "Permission denied (os error 13)"
  | .busy => "Device or resource busy (os error 16)"
  | .taken => "File exists (os error 17)"
  | .crossDevice => "Invalid cross-device link (os error 18)"
  | .notADirectory => "Not a directory (os error 20)"
  | .isADirectory => "Is a directory (os error 21)"
  | .withinItself => "Invalid argument (os error 22)"
  | .noSpace => "No space left on device (os error 28)"
  | .nameTooLong => "File name too long (os error 36)"
  | .notEmpty => "Directory not empty (os error 39)"
  | .badPath => "file name contained an unexpected NUL byte"
  | .notAFile => "the source path is neither a regular file nor a symlink to a regular file"
  | .notText => "stream did not contain valid UTF-8"
  | .other reason => reason

end MovieCatalogue.Disk

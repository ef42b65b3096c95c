import MovieCatalogue.Disk.Bytes

/-!
Contract: what is found at a path.

Owns: `FileState`, what reading a file may find.
Does not own: directories; see `Disk.Tree`.
-/

namespace MovieCatalogue.Storage

/-- What reading a file finds. -/
inductive FileState where
  | missing
  | unreadable (reason : String)
  /-- A file that holds no text. -/
  | garbled (bytes : ByteArray)
  | found (text : String)
deriving DecidableEq

namespace FileState

def isPresent : FileState → Bool
  | .missing => false
  | .unreadable _ | .garbled _ | .found _ => true

/-- What is found where a file has these bytes. -/
def ofBytes (bytes : ByteArray) : FileState :=
  match String.fromUTF8? bytes with
  | some text => .found text
  | none => .garbled bytes

theorem isPresent_ofBytes (bytes : ByteArray) : (ofBytes bytes).isPresent = true := by
  rw [ofBytes]
  split
  case h_1 => rfl
  case h_2 => rfl

theorem ofBytes_toUTF8 (text : String) : ofBytes text.toUTF8 = .found text := by
  have valid : String.fromUTF8? text.toUTF8 = some text := by
    rw [String.fromUTF8?, Option.dite_none_right_eq_some]
    exact ⟨text.isValidUTF8, rfl⟩
  rw [ofBytes, valid]

end FileState

end MovieCatalogue.Storage

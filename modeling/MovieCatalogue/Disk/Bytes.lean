/-!
Contract: bytes that are written over others.

Owns: how bytes are compared; and the contents of a file after bytes are written
at some position. What stands before and behind them stays, and a gap before them
is filled with zeros.
Does not own: which files there are; see `Disk.Tree`.
-/

namespace MovieCatalogue.Disk

-- Bytes are compared by the language's own test, whatever library is in scope.
instance (priority := 2000) plainBytes : DecidableEq ByteArray := ByteArray.instDecidableEq

def zeros (count : Nat) : ByteArray :=
  ⟨Array.replicate count 0⟩

/-- Contents with bytes written at a position. -/
def overwrite (contents : ByteArray) (position : Nat) (bytes : ByteArray) : ByteArray :=
  if bytes.isEmpty then contents
  else
    contents.extract 0 position ++ zeros (position - contents.size) ++ bytes ++
      contents.extract (position + bytes.size) contents.size

/-- Nothing is changed by no bytes. -/
theorem overwrite_empty (contents : ByteArray) (position : Nat) :
    overwrite contents position .empty = contents := by
  rfl

/-- Bytes at the end of contents are added to them. -/
theorem overwrite_size (contents bytes : ByteArray) :
    overwrite contents contents.size bytes = contents ++ bytes := by
  unfold overwrite
  split
  case isTrue isEmpty =>
    have nothing : bytes = .empty := by simpa [ByteArray.isEmpty] using isEmpty
    simp [nothing]
  case isFalse =>
    apply ByteArray.ext
    simp [zeros]

end MovieCatalogue.Disk

/-!
Contract: pieces on their way to a file.

Owns: `Buffer`, what of some pieces has reached a file and what is held back to be
written with the pieces that follow. A piece that does not fit beside what is held
back has that written first, and one that would not fit alone is written at once.
Does not own: what becomes of the pieces in the file; see `Disk.Bytes`.
-/

namespace MovieCatalogue.Disk

/-- What has reached a file, and what is held back. -/
structure Buffer where
  written : ByteArray := .empty
  held : ByteArray := .empty

namespace Buffer

/-- How many bytes may be held back. -/
def capacity : Nat := 1024

def add (buffer : Buffer) (piece : ByteArray) : Buffer :=
  if capacity ≤ piece.size then { written := buffer.written ++ buffer.held ++ piece }
  else if capacity < buffer.held.size + piece.size then
    { written := buffer.written ++ buffer.held, held := piece }
  else { buffer with held := buffer.held ++ piece }

def ofPieces (pieces : List ByteArray) : Buffer :=
  pieces.foldl add {}

/-- What has reached the file with what is held back. -/
def content (buffer : Buffer) : ByteArray :=
  buffer.written ++ buffer.held

/-- Nothing is lost but by what is done with the part that is held back. -/
theorem content_add (buffer : Buffer) (piece : ByteArray) :
    (buffer.add piece).content = buffer.content ++ piece := by
  unfold add content
  split
  · simp
  · split <;> simp [ByteArray.append_assoc]

/-- Not more than the capacity is held back. -/
theorem held_size_add_le (buffer : Buffer) (piece : ByteArray) :
    (buffer.add piece).held.size ≤ capacity := by
  unfold add
  split
  case isTrue => simp
  case isFalse small =>
    split
    case isTrue => simp only; omega
    case isFalse fits => simp only [ByteArray.size_append]; omega

end Buffer

end MovieCatalogue.Disk

import MovieCatalogue.Journal.Interval
import MovieCatalogue.Number.Notation
import MovieCatalogue.Text.Cut

/-!
Contract: log files that are put aside.

Owns: `Rotation`, which says on which occasion a log file is put aside and what
becomes of it: it is removed, or it gets the first number of a window of older
files, where each of them moves up by one number and the last one is replaced.
Does not own: moving and removing files; see `Shell.RotatedFile`.
-/

namespace MovieCatalogue.Journal

/-- When a file is put aside. -/
inductive Occasion where
  /-- After a line with which it has more bytes than the limit. -/
  | size (limit : Nat)
  /-- Before the first line of a run, when it has so many bytes. -/
  | start (least : Nat)
  /-- Before a line, when an interval is over. -/
  | interval (span : Interval)
deriving DecidableEq, Repr

namespace Occasion

/-- Whether an occasion comes before a line, and not after it. -/
def isBefore : Occasion → Bool
  | .size _ => false
  | .start _ | .interval _ => true

/-- Whether a file is put aside, given its bytes; an interval may lead to no time at all. -/
def arises? (occasion : Occasion) (present : Calendar.LocalMoment) (isFirst : Bool)
    (bytes : Nat) : Option Bool :=
  match occasion with
  | .size limit => some (limit < bytes)
  | .start least => some (isFirst && least ≤ bytes)
  | .interval span => span.isOver? present

end Occasion

/-- Numbered places for older files. -/
structure Window where
  /-- The path of a place, with empty braces for its number. -/
  pattern : String
  base : Nat := 0
  count : Nat
deriving DecidableEq, Repr

namespace Window

/-- What stands for the number in a pattern. -/
def numberMark : List Char := ['\x7b', '\x7d']

def place (window : Window) (number : Nat) : String :=
  String.ofList
    (Text.replaceAll '\x7b' (numberMark.drop 1) (Number.natText number).toList
      window.pattern.toList)

/-- Whether the number behind the last one is a 32-bit word. -/
def isCountable (window : Window) : Bool :=
  window.base + window.count < 2 ^ 32

/-- The numbers whose files move up by one, in the order in which they move. -/
def movers (window : Window) : List Nat :=
  (List.range (window.count - 1)).reverse.map (window.base + ·)

/-- With one number more, the file below the last number moves first, and then the others as before. -/
theorem movers_succ (base count : Nat) (pattern : String) :
    (Window.mk pattern base (count + 2)).movers =
      (base + count) :: (Window.mk pattern base (count + 1)).movers := by
  simp [movers, List.range_succ]

end Window

/-- What becomes of a file that is put aside. -/
inductive Fate where
  | removed
  | numbered (window : Window)
deriving DecidableEq, Repr

/-- When a log file is put aside, and what becomes of it. -/
structure Rotation where
  occasion : Occasion
  fate : Fate
deriving DecidableEq, Repr

end MovieCatalogue.Journal

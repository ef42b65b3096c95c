import MovieCatalogue.Journal.Setup
import MovieCatalogue.Shell.RotatedFile

/-!
Contract: a run in progress.

Owns: the open log of a run; and the steps of a run, which go on in a world with
that log and may end the run with a code. What was done before the end stays done.
Does not own: how a log is opened and written, see `Shell.Log` and
`Shell.LogWriting`; what a run does, see `Shell.Program`.
-/

namespace MovieCatalogue.Shell

open MovieCatalogue.Journal

/-- An outlet that lines can be written to. -/
inductive OpenOutlet (Handle : Type) where
  | file (handle : Handle)
  | rotated (file : RotatedFile Handle)
  /-- A standard output, with colours or without. -/
  | stream (stream : Stream) (coloured : Bool)
  | nowhere

structure Log (Handle : Type) where
  routing : Routing := {}
  appenders : List (Appender × OpenOutlet Handle) := []

/-- The steps of a run with its log, which may end it with a code. -/
abbrev Running (m : Type → Type) (Handle : Type) := ExceptT Nat (StateT (Log Handle) m)

namespace Running

variable {m : Type → Type} {Handle : Type} [Monad m] {α : Type}

def perform (step : m α) : Running m Handle α :=
  ExceptT.lift (StateT.lift step)

def say (world : World m Handle) (stream : Stream) (text : String) : Running m Handle Unit :=
  match stream with
  | .output => perform (world.print text)
  | .errors => perform (world.complain text)

/-- Ends the run with an error. -/
def fail (world : World m Handle) (code : Nat) (message : String) : Running m Handle α := do
  say world .errors ("error: " ++ message ++ "\n")
  throw code

/-- The code of a run that breaks off because a time cannot be told or a number is too great. -/
def breakCode : Nat := 101

/-- Breaks the run off. -/
def breakOff : Running m Handle α :=
  throw breakCode

end Running

end MovieCatalogue.Shell

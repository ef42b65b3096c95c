import MovieCatalogue.Text.Cut

/-!
Contract: levels of log lines.

Owns: `Level`, which says how much a line matters or how much is logged, and the
readings of a level's name: one for which every other word means `info`, and one
that refuses other words.
Does not own: which lines there are; see `Journal.Lines`.
-/

namespace MovieCatalogue.Journal

/-- How much is logged, from nothing to everything. -/
inductive Level where
  | off
  | error
  | warn
  | info
  | debug
  | trace
deriving DecidableEq, Repr

namespace Level

def name : Level → String
  | .off => "OFF"
  | .error => "ERROR"
  | .warn => "WARN"
  | .info => "INFO"
  | .debug => "DEBUG"
  | .trace => "TRACE"

def all : List Level :=
  [.off, .error, .warn, .info, .debug, .trace]

def rank : Level → Nat
  | .off => 0
  | .error => 1
  | .warn => 2
  | .info => 3
  | .debug => 4
  | .trace => 5

/-- The level of a name, in any case. -/
def ofName? (s : String) : Option Level :=
  match Text.lowerAscii s with
  | "off" => some .off
  | "error" => some .error
  | "warn" => some .warn
  | "info" => some .info
  | "debug" => some .debug
  | "trace" => some .trace
  | _ => none

/-- The level of a word, in any case; every other word means `info`. -/
def ofWord (s : String) : Level :=
  (ofName? s).getD .info

def passes (limit line : Level) : Bool :=
  line.rank ≤ limit.rank

end Level

end MovieCatalogue.Journal

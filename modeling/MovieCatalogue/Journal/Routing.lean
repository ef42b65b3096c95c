import MovieCatalogue.Journal.Lines

/-!
Contract: which lines are written where.

Owns: `Routing`, which gives a level and appenders, by their names, to the root of
all targets and to the targets that have loggers of their own; and the route of a
target, which it takes from the nearest of them above it. A logger adds its
appenders to those of the one above it unless it takes their place. Also the
names that a logger may have, and the appenders that a routing may name.
Does not own: what an appender does with a line; see `Journal.Setup`.
-/

namespace MovieCatalogue.Journal

/-- A target with a level and appenders of its own. -/
structure Logger where
  target : String
  level : Level
  appenders : List String := []
  /-- Whether its lines go to the appenders above it as well. -/
  additive : Bool := true
deriving DecidableEq, Repr

/-- Where the lines of a target go, and which of them. -/
structure Route where
  level : Level
  appenders : List String
deriving DecidableEq, Repr

/-- The routes of all targets. -/
structure Routing where
  /-- The route of targets without a logger above them. -/
  root : Route := ⟨.debug, []⟩
  loggers : List Logger := []
deriving DecidableEq, Repr

/-- Why a part of a routing does not count. -/
inductive RoutingFault where
  | unknownAppender (name : String)
  | badTarget (name : String)
deriving DecidableEq, Repr

def RoutingFault.message : RoutingFault → String
  | .unknownAppender name => "Reference to nonexistent appender: `" ++ name ++ "`"
  | .badTarget name => "Invalid logger name `" ++ name ++ "`"

/-- The starts of a target that end before a pair of colons, and the target itself. -/
def leadingChars (before : List Char) : List Char → List (List Char)
  | ':' :: ':' :: cs => before.reverse :: leadingChars (':' :: ':' :: before) cs
  | c :: cs => leadingChars (c :: before) cs
  | [] => [before.reverse]

/-- The targets that lead to a target, the outermost first, and the target itself. -/
def leadingTargets (target : String) : List String :=
  (leadingChars [] target.toList).map String.ofList

/-- Whether colons stand in pairs only, and not at the end, given how many of them came last. -/
def pairsColons (streak : Nat) : List Char → Bool
  | [] => streak == 0
  | c :: cs =>
    if c = ':' then streak < 2 && pairsColons (streak + 1) cs
    else (streak == 0 || streak == 2) && pairsColons 0 cs

/-- Whether a logger may have a name. -/
def isTarget (name : String) : Bool :=
  !name.isEmpty && pairsColons 0 name.toList

namespace Routing

/-- The route below a target, given the one above it. -/
def step (routing : Routing) (above : Route) (target : String) : Route :=
  match routing.loggers.find? fun logger => logger.target == target with
  | some logger =>
    ⟨logger.level, logger.appenders ++ (if logger.additive then above.appenders else [])⟩
  | none => above

def route (routing : Routing) (target : String) : Route :=
  (leadingTargets target).foldl routing.step routing.root

/-- The appenders that a line goes to, in order; one may stand there more than once. -/
def appendersOf (routing : Routing) (line : Line) : List String :=
  let route := routing.route line.target
  if route.level.passes line.level then route.appenders else []

/-- The faults of naming appenders that are not there. -/
def appenderFaults (known named : List String) : List RoutingFault :=
  (named.filter fun name => !known.contains name).map .unknownAppender

/-- The routing with known appenders and possible targets only. -/
def restrict (routing : Routing) (known : List String) : Routing where
  root := { routing.root with appenders := routing.root.appenders.filter known.contains }
  loggers := (routing.loggers.filter fun logger => isTarget logger.target).map fun logger =>
    { logger with appenders := logger.appenders.filter known.contains }

/-- What `restrict` leaves out. -/
def faults (routing : Routing) (known : List String) : List RoutingFault :=
  appenderFaults known routing.root.appenders ++
    routing.loggers.flatMap fun logger =>
      if isTarget logger.target then appenderFaults known logger.appenders
      else [.badTarget logger.target]

end Routing

end MovieCatalogue.Journal

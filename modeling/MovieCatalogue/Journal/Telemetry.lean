import MovieCatalogue.Digest.Sha256
import MovieCatalogue.Journal.Event
import MovieCatalogue.Json.Basic

/-!
Contract: accounting for queries and writes.

Owns: the three counters, when a query counts as slow, and the report of a query,
which carries a digest in the place of the query's text because the text may hold
what users typed. The counters are a fold over the events of a run.
Does not own: where reports go; see `Journal.Lines`.
-/

namespace MovieCatalogue.Journal

/-- What telemetry takes for slow, and whether it reports single queries. -/
structure Policy where
  /-- Milliseconds from which on a query is slow. -/
  slowAfter : Nat
  structured : Bool := true
deriving DecidableEq, Repr

/-- A query as telemetry sees it. -/
structure QueryRun where
  table : String
  text : String
  duration : Nat
  page : Nat
  limit : Nat
  total : Nat
deriving DecidableEq, Repr

def PagedRead.run (read : PagedRead) : QueryRun :=
  ⟨read.query.table, read.query.text, read.elapsed, read.page, read.limit, read.total⟩

/-- Counts since the start of a run. -/
structure Counters where
  queries : Nat := 0
  slow : Nat := 0
  writes : Nat := 0
deriving DecidableEq, Repr

structure QueryReport where
  table : String
  queryHash : String
  duration : Nat
  page : Nat
  limit : Nat
  total : Nat
  slow : Bool
deriving DecidableEq, Repr

namespace Policy

def isSlow (policy : Policy) (run : QueryRun) : Bool :=
  policy.slowAfter ≤ Number.saturateWord run.duration

def report (policy : Policy) (run : QueryRun) : QueryReport :=
  ⟨run.table, Digest.Sha256.hex run.text, Number.saturateWord run.duration, run.page, run.limit,
    run.total, policy.isSlow run⟩

def reports (policy : Policy) (run : QueryRun) : List QueryReport :=
  if policy.structured then [policy.report run] else []

def reportsOf (policy : Policy) : Event → List QueryReport
  | .paged read => policy.reports read.run
  | _ => []

end Policy

namespace Counters

def addQuery (policy : Policy) (counters : Counters) (run : QueryRun) : Counters :=
  { counters with
    queries := counters.queries + 1
    slow := counters.slow + (if policy.isSlow run then 1 else 0) }

def addWrites (counters : Counters) (changes : Nat) : Counters :=
  { counters with writes := counters.writes + changes }

def observe (policy : Policy) (counters : Counters) : Event → Counters
  | .paged read => counters.addQuery policy read.run
  | .committed _ changes => counters.addWrites changes
  | _ => counters

/-- Counts all events of a run. -/
def observeAll (policy : Policy) (counters : Counters) (events : List Event) : Counters :=
  events.foldl (observe policy) counters

def named (counters : Counters) : List (String × Nat) :=
  [("cinelite_queries_total", counters.queries),
   ("cinelite_queries_slow_total", counters.slow),
   ("cinelite_writes_total", counters.writes)]

/-- The counters, one on a line. -/
def text (counters : Counters) : String :=
  String.join
    (counters.named.map fun entry => entry.1 ++ " " ++ Number.natText entry.2 ++ "\n")

end Counters

/-- The members of a report, behind the time stamp if it is given. -/
def QueryReport.toJson (stamp : Option String) (report : QueryReport) : Json :=
  let time : Fields Json :=
    match stamp with
    | some s => [("ts", .string s)]
    | none => []
  .object (time ++
    [("table", .string report.table),
     ("query_hash", .string report.queryHash),
     ("duration_ms", .int report.duration),
     ("page", .int report.page),
     ("limit", .int report.limit),
     ("total", .int report.total),
     ("slow", .bool report.slow)])

end MovieCatalogue.Journal

import MovieCatalogue.Journal.Telemetry

/-!
Contract: what events add to the account of queries and writes.

Owns: the paged reads and the committed changes that a list of events tells of; that the counters
grow by the number of the reads, by that of the slow ones among them and by that of the changes; and
that the reports are those of the reads, in order, or none.
Does not own: which events a request tells of; see `Proofs.Endpoint.Accounting`.
-/

namespace MovieCatalogue.Journal

open MovieCatalogue.Number

/-- The read that an event tells of. -/
def Event.read? : Event → Option PagedRead
  | .paged read => some read
  | _ => none

/-- The number of changes whose commit an event tells of. -/
def Event.changes : Event → Nat
  | .committed _ changes => changes
  | _ => 0

/-- The reads that events tell of, in order. -/
def reads (events : List Event) : List PagedRead :=
  events.filterMap Event.read?

/-- The number of changes that events tell were committed. -/
def changes (events : List Event) : Nat :=
  (events.map Event.changes).sum

/-- Events that tell of no read and of no change. -/
def Silent (events : List Event) : Prop :=
  reads events = [] ∧ changes events = 0

variable {policy : Policy} {events others : List Event}

theorem reads_append : reads (events ++ others) = reads events ++ reads others :=
  List.filterMap_append

theorem changes_append : changes (events ++ others) = changes events + changes others := by
  rw [changes, List.map_append, List.sum_append]
  rfl

theorem Counters.observe_eq (policy : Policy) (counters : Counters) (event : Event) :
    counters.observe policy event =
      ⟨counters.queries + (reads [event]).length,
        counters.slow + (reads [event]).countP fun read => policy.isSlow read.run,
        counters.writes + changes [event]⟩ := by
  cases event with
  | paged read =>
      by_cases slow : policy.isSlow read.run = true <;>
        simp [observe, addQuery, reads, changes, Event.read?, Event.changes, slow]
  | _ => rfl

/-- The counters grow with the reads and the changes, and with nothing else. -/
theorem Counters.observeAll_eq (policy : Policy) (counters : Counters) (events : List Event) :
    counters.observeAll policy events =
      ⟨counters.queries + (reads events).length,
        counters.slow + (reads events).countP fun read => policy.isSlow read.run,
        counters.writes + changes events⟩ := by
  induction events generalizing counters with
  | nil => rfl
  | cons event events inductionHypothesis =>
      rw [observeAll, List.foldl_cons]
      refine (inductionHypothesis (counters.observe policy event)).trans ?_
      have first : event :: events = [event] ++ events := rfl
      rw [observe_eq, first, reads_append, changes_append, List.length_append, List.countP_append]
      simp only [Nat.add_assoc]

/-- Each read is reported, or none is. -/
theorem flatMap_reportsOf (policy : Policy) (events : List Event) :
    events.flatMap policy.reportsOf =
      if policy.structured then (reads events).map fun read => policy.report read.run else [] := by
  induction events with
  | nil => simp [reads]
  | cons event events inductionHypothesis =>
      rw [List.flatMap_cons, inductionHypothesis]
      cases event with
      | paged read =>
          cases structured : policy.structured <;>
            simp [Policy.reportsOf, Policy.reports, structured, reads, Event.read?]
      | _ => rfl

/-- A query is slow from the threshold on, although its duration is cut to a word. -/
theorem Policy.isSlow_eq (word : policy.slowAfter ≤ maxWord) (run : QueryRun) :
    policy.isSlow run = decide (policy.slowAfter ≤ run.duration) := by
  simp only [isSlow, saturateWord, Nat.le_min, word, and_true]

end MovieCatalogue.Journal

import MovieCatalogue.Number.Integer
import MovieCatalogue.RequestError
import MovieCatalogue.Selection.Query

/-!
Contract: what happened.

Owns: the events that operations report beside their results. Traces, log lines
and counters are all read off them, so an operation never writes a log itself.
Does not own: how an event is worded or counted; see `Journal.Lines` and
`Journal.Telemetry`.
-/

namespace MovieCatalogue.Journal

open MovieCatalogue.Selection MovieCatalogue.Storage

/-- A query that was answered with one page. -/
structure PagedRead where
  query : Query
  page : Nat
  limit : Nat
  total : Nat
  /-- Duration in milliseconds. -/
  elapsed : Nat
deriving DecidableEq, Repr

/-- A request by its method and path. -/
structure Call where
  method : String
  path : String
deriving DecidableEq, Repr

inductive Event where
  | queryBuilt (query : Query)
  | paged (read : PagedRead)
  | committed (table : String) (changes : Nat)
  | rolledBack (table : String) (changes : Nat)
  | created (entity idSpec : String)
  | updated (entity id : String)
  | deleted (entity id : String)
  | failed (call : Call) (error : StoreError)
  | rejected (call : Call) (error : RequestError)
  | answered (call : Call) (status : Nat)
  | recordFailed (error : StoreError)
  | snapshotMissing (path : String)
  | snapshotLoaded (rows : Nat) (path : String)
  | snapshotSaved (rows : Nat) (path : String)
  | commandFinished (status : Nat)

/-- The developer trace of an event, if it has one. -/
def Event.trace? : Event → Option String
  | .queryBuilt query => some ("built query: " ++ query.text)
  | .paged read =>
    some ("paginate " ++ read.query.text ++ " page=" ++ Number.natText read.page ++
      " limit=" ++ Number.natText read.limit ++ " total=" ++ Number.natText read.total ++
      " took=" ++ Number.natText (Number.saturateWord read.elapsed) ++ "ms")
  | _ => none

end MovieCatalogue.Journal

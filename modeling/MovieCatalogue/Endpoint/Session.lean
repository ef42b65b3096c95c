import MovieCatalogue.Journal.Event
import MovieCatalogue.Storage.Store

/-!
Contract: units of work.

Owns: a session, which stages changes to one table until it is committed or
dropped, and the events of both endings. A commit that the store refuses leaves
nothing staged and tells of no event.
Does not own: what is staged.
-/

namespace MovieCatalogue.Endpoint

open MovieCatalogue.Journal MovieCatalogue.Storage

/-- Changes staged for one table. -/
structure Session where
  table : String
  pending : List Change := []

namespace Session

/-- Stages one more change. -/
def stage (session : Session) (change : Change) : Session :=
  { session with pending := session.pending ++ [change] }

/-- Commits what is staged: the store after it, the rows written, and what happened. -/
def commit (session : Session) (store : Store) :
    Except StoreError (Store × List Row × List Event) := do
  let (after, written) ← store.commit session.table session.pending
  return (after, written, [.committed session.table session.pending.length])

def drop (session : Session) : List Event :=
  if session.pending.isEmpty then []
  else [.rolledBack session.table session.pending.length]

end Session

end MovieCatalogue.Endpoint

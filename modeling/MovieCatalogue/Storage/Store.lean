import MovieCatalogue.Storage.Table

/-!
Contract: the tables together.

Owns: declaring and clearing tables, committing a batch of changes to one of
them, and answering queries. A commit that is refused leaves the store as it
was; one that succeeds changes its own table only.
Does not own: keeping a store between runs; see `Snapshot`.
-/

namespace MovieCatalogue.Storage

open MovieCatalogue.Selection

structure Store where
  tables : List Table

namespace Store

def empty : Store := ⟨[]⟩

def find? (store : Store) (name : String) : Option Table :=
  store.tables.find? fun table => table.spec.name == name

/-- The table of a name, or the error that there is none. -/
def get (store : Store) (name : String) : Except StoreError Table :=
  match store.find? name with
  | some table => .ok table
  | none => .error (.noSuchTable name)

/-- Puts a table in the place of the one with its name. -/
def put (store : Store) (table : Table) : Store :=
  ⟨store.tables.map fun old => if old.spec.name == table.spec.name then table else old⟩

/-- Declares a table; a name that is taken stays with its table. -/
def declare (store : Store) (spec : Spec) : Store × Bool :=
  match store.find? spec.name with
  | some _ => (store, false)
  | none => (⟨store.tables ++ [{ spec := spec }]⟩, true)

/-- A store with empty tables. -/
def ofSpecs (specs : List Spec) : Store :=
  specs.foldl (fun store spec => (store.declare spec).1) empty

/-- The names of the tables in the order of texts. -/
def names (store : Store) : List String :=
  (store.tables.map fun table => table.spec.name).mergeSort Text.leTexts

/-- The rows of a table in the order of insertion. -/
def rows (store : Store) (name : String) : Except StoreError (List Row) :=
  (store.get name).map fun table => table.rows.map StoredRow.cells

/-- The declarations without any rows. -/
def clear (store : Store) : Store :=
  ⟨store.tables.map Table.clear⟩

/-- Applies a batch of changes to a table, all or none. -/
def commit (store : Store) (name : String) (changes : List Change) :
    Except StoreError (Store × List Row) := do
  let table ← store.get name
  let (after, written) ← table.applyAll changes
  return (store.put after, written)

def count (store : Store) (query : Query) : Except StoreError Nat := do
  let table ← store.get query.table
  table.checkQuery query
  return (table.hits query).length

/-- The rows that a query selects from `offset` on, at most `limit` of them if there is one. -/
def fetch (store : Store) (query : Query) (offset : Nat) (limit : Option Nat) :
    Except StoreError (List Row) := do
  let table ← store.get query.table
  table.checkQuery query
  let rows := (table.select query).drop offset
  return match limit with
    | some most => rows.take most
    | none => rows

end Store

end MovieCatalogue.Storage

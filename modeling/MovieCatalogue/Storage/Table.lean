import MovieCatalogue.Selection.Evaluation
import MovieCatalogue.Storage.Error

/-!
Contract: one table and the changes to it.

Owns: rows with their row numbers, normalisation to storage form, the checks of
the unique constraints, and the four kinds of change. Row numbers only grow, so
the order of the rows is the order of insertion; `Table.applyAll` applies a batch
one change after the other, each one seeing the rows that the earlier ones left,
and stops at the first that is refused.
Does not own: several tables at once; see `Storage.Store`.
-/

namespace MovieCatalogue.Storage

open MovieCatalogue.Selection

/-- A row of a table with its row number, which decides between tied rows. -/
structure StoredRow where
  rowid : Nat
  cells : Row

/-- A table: its declaration and its rows in the order of insertion. -/
structure Table where
  spec : Spec
  rows : List StoredRow := []
  nextRowid : Nat := 1

/-- The values of a primary key, in the order of its columns. -/
abbrev Key := List Value

def Key.of (spec : Spec) (row : Row) : Key :=
  spec.primaryKey.map (valueAt row)

/-- Whether two keys have the same values. -/
def Key.same : Key → Key → Bool
  | [], [] => true
  | a :: as, b :: bs => a.same b && Key.same as bs
  | _, _ => false

inductive Change where
  | insert (row : Row)
  /-- An insertion whose integer key is one past the largest key. -/
  | insertNextKey (row : Row)
  | replace (key : Key) (row : Row)
  | delete (key : Key)

/-- The storage form of the value that a row has for a column. -/
def normalizeCell (spec : Spec) (row : Row) (column : Column) :
    Except StoreError (String × Value) :=
  let value := valueAt row column.name
  if value.isNull then
    if column.nullable then .ok (column.name, .null)
    else .error (.invalidValue spec.name column.name "NOT NULL")
  else
    match column.kind.coerce value with
    | .ok stored => .ok (column.name, stored)
    | .error refusal => .error (.invalidValue spec.name column.name refusal.message)

/-- The storage form of a row: all columns in order, absent ones as absent values. -/
def normalize (spec : Spec) (row : Row) : Except StoreError Row :=
  match row.find? fun cell => (spec.column? cell.1).isNone with
  | some extra => .error (.invalidValue spec.name extra.1 "unknown column")
  | none => (spec.columns.mapM (normalizeCell spec row)).map Fields.collapse

/-- Whether a stored row has the values of a candidate in every column of a constraint. -/
def agreesOn (constraint : List String) (candidate stored : Row) : Bool :=
  constraint.all fun name =>
    match Fields.get? name stored with
    | some value => value.ties (valueAt candidate name)
    | none => false

/-- Whether a candidate violates a constraint. Absent values never collide. -/
def clashes (rows : List StoredRow) (candidate : Row) (constraint : List String) : Bool :=
  !(constraint.any fun name => (valueAt candidate name).isNull) &&
    rows.any fun row => agreesOn constraint candidate row.cells

/-- Refuses a candidate that agrees with one of the rows on a constraint. -/
def checkUnique (spec : Spec) (rows : List StoredRow) (candidate : Row) : Except StoreError Unit :=
  match spec.constraints.find? (clashes rows candidate) with
  | some constraint => .error (.uniqueViolation spec.name constraint)
  | none => .ok ()

namespace Table

/-- The place of the first row with a key. -/
def position (table : Table) (key : Key) : Except StoreError Nat :=
  match table.rows.findIdx? fun row => (Key.of table.spec row.cells).same key with
  | some place => .ok place
  | none => .error (.rowNotFound table.spec.name)

/-- The largest value of an integer column, zero for a table without one. -/
def largest (table : Table) (column : String) : Int :=
  match table.rows.filterMap fun row => (valueAt row.cells column).integer? with
  | [] => 0
  | first :: others => others.foldl max first

def insert (table : Table) (row : Row) : Except StoreError (Table × Row) := do
  let stored ← normalize table.spec row
  checkUnique table.spec table.rows stored
  return ({ table with
    rows := table.rows ++ [⟨table.nextRowid, stored⟩]
    nextRowid := table.nextRowid + 1 }, stored)

/-- Adds a row at the end under the next integer key. -/
def insertNextKey (table : Table) (row : Row) : Except StoreError (Table × Row) :=
  match table.spec.integerKey? with
  | none =>
    .error (.invalidValue table.spec.name (Text.join "_" table.spec.primaryKey)
      "key is not a single integer column")
  | some key =>
    table.insert (Fields.put key (.int64 (Int64.ofInt (table.largest key + 1))) row)

/-- Puts a row in the place of the one with a key. -/
def replace (table : Table) (key : Key) (row : Row) : Except StoreError (Table × Row) := do
  let place ← table.position key
  let stored ← normalize table.spec row
  checkUnique table.spec (table.rows.eraseIdx place) stored
  let rows := table.rows.modify place fun old => { old with cells := stored }
  return ({ table with rows := rows }, stored)

def delete (table : Table) (key : Key) : Except StoreError Table := do
  let place ← table.position key
  return { table with rows := table.rows.eraseIdx place }

/-- One change: the table after it and the row that it wrote, if any. -/
def apply (table : Table) : Change → Except StoreError (Table × List Row)
  | .insert row => (table.insert row).map fun (after, stored) => (after, [stored])
  | .insertNextKey row => (table.insertNextKey row).map fun (after, stored) => (after, [stored])
  | .replace key row => (table.replace key row).map fun (after, stored) => (after, [stored])
  | .delete key => (table.delete key).map fun after => (after, [])

/-- A batch of changes: the table after all of them and the rows that they wrote. -/
def applyAll (table : Table) : List Change → Except StoreError (Table × List Row)
  | [] => .ok (table, [])
  | change :: changes => do
    let (next, written) ← table.apply change
    let (last, others) ← next.applyAll changes
    return (last, written ++ others)

/-- The table without rows. -/
def clear (table : Table) : Table :=
  { table with rows := [], nextRowid := 1 }

/-- Refuses a query that names a column which the table lacks. -/
def checkQuery (table : Table) (query : Query) : Except StoreError Unit :=
  match query.fields.find? fun field => (table.spec.column? field).isNone with
  | some field => .error (.noSuchColumn table.spec.name field)
  | none => .ok ()

/-- The rows that satisfy the predicates of a query, in the order of insertion. -/
def hits (table : Table) (query : Query) : List StoredRow :=
  table.rows.filter fun row => satisfies table.spec query.predicates row.cells

/-- Whether a row comes before another: by the order terms, then by row number. -/
def precedes (order : List OrderTerm) (a b : StoredRow) : Bool :=
  ((compareRows order a.cells b.cells).then (compare a.rowid b.rowid)).isLE

def select (table : Table) (query : Query) : List Row :=
  let rows :=
    if query.order.isEmpty then table.hits query
    else (table.hits query).mergeSort (precedes query.order)
  rows.map StoredRow.cells

end Table

end MovieCatalogue.Storage

import MovieCatalogue.Json.Printer
import MovieCatalogue.Json.Selection
import MovieCatalogue.Storage.File
import MovieCatalogue.Storage.Json
import MovieCatalogue.Storage.Store

/-!
Contract: keeping a store as a JSON text.

Owns: `Snapshot`, the rows of every table under its name; the document
`version`, `tables` that holds it; and the two directions between stores and
texts. Loading first forgets all rows. It then takes the tables in the order of
their names and inserts the rows of each as one batch; a fault of any kind
leaves the declarations with no rows.
Does not own: files; see `Shell.Program`.
-/

namespace MovieCatalogue.Storage

/-- The rows of tables as JSON values, under the names of the tables. -/
structure Snapshot where
  tables : Fields (List Json)

namespace Snapshot

def version : Int := 1

def ofStore (store : Store) : Snapshot :=
  let tables := store.tables.map fun table =>
    (table.spec.name, table.rows.map fun row => Row.toJson row.cells)
  ⟨tables.mergeSort fun a b => Text.leTexts a.1 b.1⟩

def rowCount (snapshot : Snapshot) : Nat :=
  (snapshot.tables.map fun table => table.2.length).sum

def toJson (snapshot : Snapshot) : Json :=
  .object
    [("version", .int version),
     ("tables", .object (snapshot.tables.map fun table => (table.1, .array table.2)))]

def text (snapshot : Snapshot) : String :=
  snapshot.toJson.pretty

/-! ## Reading -/

/-- Why a document is no snapshot. -/
inductive Fault where
  | badShape (expected : String)
  | otherVersion (found : Int)
deriving DecidableEq, Repr

/-- The text of a fault. A shape is checked with the text at hand, so it is placed at its start. -/
def Fault.message : Fault → String
  | .badShape expected => "expected " ++ expected ++ " at line 1 column 0"
  | .otherVersion found => "unsupported snapshot version " ++ Number.intText found

/-- The only member with a name. -/
def onlyMember (name : String) (members : Fields Json) : Except Fault Json :=
  match members.filter fun member => member.1 == name with
  | [(_, value)] => .ok value
  | _ => .error (.badShape ("one member " ++ name))

/-- The two parts of a document: its version and its tables, by name or in order. -/
def parts : Json → Except Fault (Json × Json)
  | .object members => do
    return (← onlyMember "version" members, ← onlyMember "tables" members)
  | .array [version, tables] => .ok (version, tables)
  | _ => .error (.badShape "a snapshot")

/-- A version number, which is an unsigned 32-bit word. -/
def readVersion : Json → Except Fault Int
  | .int n => if 0 ≤ n ∧ n < 2 ^ 32 then .ok n else .error (.badShape "u32")
  | _ => .error (.badShape "u32")

/-- The rows of one table. -/
def readRows (member : String × Json) : Except Fault (String × List Json) :=
  match member.2 with
  | .array rows => .ok (member.1, rows.map Json.collapse)
  | _ => .error (.badShape "a sequence")

/-- The tables, the last one of each name, in the order of their names. -/
def readTables : Json → Except Fault (Fields (List Json))
  | .object members => do
    let tables ← members.mapM readRows
    return (Fields.collapse tables).mergeSort fun a b => Text.leTexts a.1 b.1
  | _ => .error (.badShape "a map")

/-- Reads a document; its shape is checked before its version. -/
def ofJson (json : Json) : Except Fault Snapshot := do
  let (version, tables) ← parts json
  let found ← readVersion version
  let tables ← readTables tables
  if found = Snapshot.version then return ⟨tables⟩ else throw (.otherVersion found)

def partNames : List String := ["version", "tables"]

/-- Reads a text. What other members hold does not matter. -/
def ofText (s : String) : Except StoreError Snapshot := do
  let json ← (Json.ofTextChoosing partNames s).mapError .snapshot
  (ofJson json).mapError fun fault => .snapshot fault.message

/-! ## Restoring -/

def insertion (json : Json) : Except StoreError Change :=
  match Row.ofJson json with
  | .ok row => .ok (.insert row)
  | .error error => .error (.decode error.message)

/-- Inserts the rows of one table. -/
def restoreTable (store : Store) (table : String × List Json) : Except StoreError Store := do
  let _ ← store.get table.1
  let changes ← table.2.mapM insertion
  let (after, _) ← store.commit table.1 changes
  return after

/-- Inserts the rows of all tables, in their order. -/
def restore (snapshot : Snapshot) (store : Store) : Except StoreError Store :=
  snapshot.tables.foldlM restoreTable store

/-- The snapshot that a file keeps; a missing one has no rows. A file that holds no text may keep one
too: what members hold that do not matter need not be text. -/
def ofFile : FileState → Except StoreError Snapshot
  | .missing => .ok ⟨[]⟩
  | .unreadable reason => .error (.io reason)
  | .garbled bytes => ofText (Json.textOfBytes bytes)
  | .found text => ofText text

/--
Replaces the rows of a store by those that a file keeps, and counts them. After an
error the store has no rows.
-/
def load (store : Store) (file : FileState) : Store × Except StoreError Nat :=
  let cleared := store.clear
  let restored : Except StoreError (Store × Nat) := do
    let snapshot ← ofFile file
    let after ← snapshot.restore cleared
    return (after, snapshot.rowCount)
  match restored with
  | .ok (after, count) => (after, .ok count)
  | .error error => (cleared, .error error)

end Snapshot

end MovieCatalogue.Storage

import MovieCatalogue.Json.Basic
import MovieCatalogue.Number.Integer

/-!
Contract: TOML documents.

Owns: `Toml`, the values of a document; tables, which remember how they came
about, because that decides whether more may be added to them; the three ways in
which a document adds to its tables; and the JSON value that a document stands
for.
Does not own: texts; see `Toml.Reader`.
-/

namespace MovieCatalogue

/-- How a table came about. -/
inductive Toml.Origin where
  /-- By a header that leads through it. -/
  | implied
  /-- By a dotted key that leads through it. -/
  | dotted
  /-- By its own header. -/
  | header
  /-- In braces; nothing is ever added to it. -/
  | inline
deriving DecidableEq, Repr

inductive Toml where
  | string (s : String)
  | integer (n : Int)
  | boolean (b : Bool)
  /-- A floating-point number or a time, as written. -/
  | other (text : String)
  | array (items : List Toml)
  /-- An array of tables, each with a header of its own. -/
  | tables (items : List (List (String × Toml)))
  | table (origin : Toml.Origin) (members : List (String × Toml))

namespace Toml

/-! ## Additions -/

/-- Applies an addition to the last of an array of tables. -/
def onLast (f : Fields Toml → Option (Fields Toml)) :
    List (List (String × Toml)) → Option (List (List (String × Toml)))
  | [] => none
  | [last] => (f last).map fun members => [members]
  | first :: others => (onLast f others).map fun others => first :: others

/-- Adds a value under a dotted key. Neither a taken key nor a table with a header takes it. -/
def assign (value : Toml) : List String → Fields Toml → Option (Fields Toml)
  | [], _ => none
  | [key], members =>
    match members.get? key with
    | none => some (members.put key value)
    | some _ => none
  | key :: keys, members =>
    match members.get? key with
    | none => (assign value keys []).map fun inner => members.put key (.table .dotted inner)
    | some (.table .dotted inner) =>
      (assign value keys inner).map fun inner => members.put key (.table .dotted inner)
    | some (.table .implied inner) =>
      (assign value keys inner).map fun inner => members.put key (.table .implied inner)
    | some _ => none

/-- Applies an addition to the table at a path of headers, making the tables on the way. -/
def descend (f : String → Fields Toml → Option (Fields Toml)) :
    List String → Fields Toml → Option (Fields Toml)
  | [], _ => none
  | [key], members => f key members
  | key :: keys, members =>
    match members.get? key with
    | none => (descend f keys []).map fun inner => members.put key (.table .implied inner)
    | some (.table .inline _) => none
    | some (.table origin inner) =>
      (descend f keys inner).map fun inner => members.put key (.table origin inner)
    | some (.tables items) =>
      (onLast (descend f keys) items).map fun items => members.put key (.tables items)
    | some _ => none

/-- Opens a table by its header, once. -/
def openTable (key : String) (members : Fields Toml) : Option (Fields Toml) :=
  match members.get? key with
  | none => some (members.put key (.table .header []))
  | some (.table .implied inner) => some (members.put key (.table .header inner))
  | some _ => none

/-- Opens one more table of an array. -/
def openItem (key : String) (members : Fields Toml) : Option (Fields Toml) :=
  match members.get? key with
  | none => some (members.put key (.tables [[]]))
  | some (.tables items) => some (members.put key (.tables (items ++ [[]])))
  | some _ => none

/-- Applies an addition to the table whose header was opened last. -/
def within (f : Fields Toml → Option (Fields Toml)) :
    List String → Fields Toml → Option (Fields Toml)
  | [], members => f members
  | key :: keys, members =>
    match members.get? key with
    | some (.table origin inner) =>
      (within f keys inner).map fun inner => members.put key (.table origin inner)
    | some (.tables items) =>
      (onLast (within f keys) items).map fun items => members.put key (.tables items)
    | _ => none

/-- A line of a document, or several for a value that spans them. -/
inductive Statement where
  | openTable (path : List String)
  | openItem (path : List String)
  | assign (keys : List String) (value : Toml)

/-- A document under construction: its members and the header that was opened last. -/
structure Draft where
  members : Fields Toml := []
  header : List String := []

def Draft.add (draft : Draft) : Statement → Option Draft
  | .openTable path =>
    (descend Toml.openTable path draft.members).map fun members => ⟨members, path⟩
  | .openItem path =>
    (descend Toml.openItem path draft.members).map fun members => ⟨members, path⟩
  | .assign keys value =>
    (within (Toml.assign value keys) draft.header draft.members).map fun members =>
      ⟨members, draft.header⟩

def ofStatements (statements : List Statement) : Option (Fields Toml) :=
  (statements.foldlM Draft.add ({} : Draft)).map Draft.members

/-! ## Documents as JSON -/

/-- What no JSON value stands for: an object that holds it as written. -/
def literalObject (text : String) : Json :=
  .object [("literal", .string text)]

/-- An integer; one that fits no 64-bit word is no JSON integer. -/
def integerToJson (n : Int) : Json :=
  if Number.minInt64 ≤ n ∧ n ≤ Number.maxWord then .int n else literalObject (Number.intText n)

mutual

def toJson : Toml → Json
  | .string s => .string s
  | .integer n => integerToJson n
  | .boolean b => .bool b
  | .other text => literalObject text
  | .array items => .array (itemsToJson items)
  | .tables items => .array (tablesToJson items)
  | .table _ members => .object (membersToJson members)

def itemsToJson : List Toml → List Json
  | [] => []
  | item :: items => toJson item :: itemsToJson items

def tablesToJson : List (List (String × Toml)) → List Json
  | [] => []
  | members :: others => .object (membersToJson members) :: tablesToJson others

def membersToJson : List (String × Toml) → List (String × Json)
  | [] => []
  | (name, value) :: members => (name, toJson value) :: membersToJson members

end

end Toml

end MovieCatalogue

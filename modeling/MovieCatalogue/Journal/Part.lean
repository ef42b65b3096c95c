import MovieCatalogue.Record.Datum
import MovieCatalogue.Yaml.Content

/-!
Contract: parts of descriptions.

Owns: parts, which name their kind and have other members; the reading of contents
as texts, numbers and choices, and of the members of a part; and what is said
about a part that cannot be built. A member may also be called by its number among
those that a part of its kind may have. Members are read in the order of their
keys, and only then it shows whether one is missing.
Does not own: what the kinds are; see `Journal.AppenderReading` and
`Journal.RotationReading`.
-/

namespace MovieCatalogue.Journal

open MovieCatalogue.Number MovieCatalogue.Record
open MovieCatalogue.Yaml (Content)

/-! ## Faults -/

/-- What is given up with a complaint. -/
abbrev Attempt (α : Type) := Except String α

/-- Why a part cannot be built. -/
def partFault : DecodeError → String
  | .wrongType found expected =>
    "Invalid type " ++ found.describe .stored ++ ". Expected " ++ expected
  | .wrongValue found expected =>
    "Invalid value " ++ found.describe .stored ++ ". Expected " ++ expected
  | .missingField name => "Missing field " ++ name
  | .wrongLength length expected =>
    "Invalid length " ++ natText length ++ ". Expected " ++ expected
  | .unknownField name expected =>
    "Unknown field " ++ name ++ ". Expected one of " ++ Text.join ", " expected
  | .repeatedField name => "Dupicate field " ++ name
  | .unknownVariant name expected =>
    "Unknown variant " ++ name ++ ". Expected one of " ++ Text.join ", " expected
  | .badDate error => error.message

def worded {α : Type} (step : Except DecodeError α) : Attempt α :=
  step.mapError partFault

/-! ## Single contents -/

abbrev ContentReading (α : Type) := Content → Except DecodeError α

namespace ContentReading

variable {α : Type}

def datum : Content → Datum
  | .nothing => .absent
  | .bool b => .bool b
  | .integer n _ => .integer n
  | .real x => .real x
  | .text s => .text s
  | .sequence _ => .sequence
  | .mapping _ => .map

def refuse (expected : String) : ContentReading α :=
  fun content => .error (.wrongType (datum content) expected)

def text : ContentReading String
  | .text s => .ok s
  | content => refuse "a string" content

def bool : ContentReading Bool
  | .bool b => .ok b
  | content => refuse "a boolean" content

/-- A number of at most so many bits, under the name of its type. -/
def word (bits : Nat) (name : String) : ContentReading Nat
  | .integer n _ =>
    if 0 ≤ n ∧ n < 2 ^ bits then .ok n.toNat else .error (.wrongValue (.integer n) name)
  | content => refuse name content

/-- A content that may be nothing. -/
def optional (read : ContentReading α) : ContentReading (Option α)
  | .nothing => .ok none
  | content => (read content).map some

def sequence (read : ContentReading α) : ContentReading (List α)
  | .sequence items => items.mapM read
  | content => refuse "a sequence" content

def nothing : ContentReading Unit
  | .nothing => .ok ()
  | content => refuse "unit" content

/-- A choice: the word for it, or a mapping from it to nothing. -/
def choice (read : ContentReading α) : ContentReading α
  | .text s => read (.text s)
  | .mapping [(key, value)] => do
    let chosen ← read key
    nothing value
    return chosen
  | .mapping _ => .error (.wrongValue .map "map with a single key")
  | content => refuse "string or map" content

/-- What a number chooses from a list; a number beyond it and anything else is refused. -/
def numbered (choices : List α) (beyond other : String) : ContentReading α
  | .integer n false =>
    match choices[n.toNat]? with
    | some chosen => .ok chosen
    | none => .error (.wrongValue (.integer n) beyond)
  | content => refuse other content

end ContentReading

/-! ## Parts -/

/-- A part of a description by its kind, with its other members in the order of their keys. -/
structure Part where
  kind : String
  members : List (Content × Content)

/-- A member that must be there. -/
def requiredMember {α : Type} (name : String) : Option α → Except DecodeError α
  | some value => .ok value
  | none => .error (.missingField name)

namespace Part

/-- A member that a part may have: its name, and how what is known of the part takes it up. -/
structure Slot (σ : Type) where
  name : String
  take : Content → σ → Except DecodeError σ

/-- A member that is read on its own and then put in its place. -/
def Slot.of {σ α : Type} (name : String) (read : ContentReading α) (put : σ → α → σ) : Slot σ :=
  ⟨name, fun content known => return put known (← read content)⟩

/-- A part from its members, of the given kind unless they tell. -/
def ofMembers (fallback : Option String) (members : List (Content × Content)) :
    Except DecodeError Part := do
  match Content.get? "kind" members, fallback with
  | some kind, _ => return ⟨← ContentReading.text kind, Content.erase "kind" members⟩
  | none, some kind => return ⟨kind, members⟩
  | none, none => throw (.missingField "kind")

def ofContent (fallback : Option String) : ContentReading Part
  | .mapping members => ofMembers fallback members
  | content => ContentReading.refuse "a map" content

/-- How a number among so many members is said to be expected. -/
def indexPhrase (what : String) (count : Nat) : String :=
  what ++ " index 0 <= i < " ++ natText count

variable {σ α : Type}

/-- The member that a key names, if any; with `strict` every key has to name one. -/
def slot? (slots : List (Slot σ)) (strict : Bool) : ContentReading (Option (Slot σ))
  | .text name =>
    match slots.find? fun slot => slot.name == name with
    | some slot => .ok (some slot)
    | none => if strict then .error (.unknownField name (slots.map Slot.name)) else .ok none
  | .integer n false =>
    match slots[n.toNat]? with
    | some slot => .ok (some slot)
    | none =>
      if strict then .error (.wrongValue (.integer n) (indexPhrase "field" slots.length))
      else .ok none
  | content => ContentReading.refuse "field identifier" content

/-- What is known of a part when its members are read, given the names of those before. -/
def readMembers (slots : List (Slot σ)) (strict : Bool) (known : σ) (before : List String) :
    List (Content × Content) → Except DecodeError σ
  | [] => .ok known
  | (key, value) :: members => do
    match ← slot? slots strict key with
    | none => readMembers slots strict known before members
    | some slot =>
      if before.contains slot.name then throw (.repeatedField slot.name)
      readMembers slots strict (← slot.take value known) (slot.name :: before) members

/-- The members of a part, of which nothing is known before; all have to be ones that it may have. -/
def read (part : Part) (slots : List (Slot σ)) (unknown : σ) : Except DecodeError σ :=
  readMembers slots true unknown [] part.members

/-- The members of a part, which may have other ones as well. -/
def readSome (part : Part) (slots : List (Slot σ)) (unknown : σ) : Except DecodeError σ :=
  readMembers slots false unknown [] part.members

def unknown (what : String) (part : Part) : Attempt α :=
  .error ("no " ++ what ++ " deserializer for kind `" ++ part.kind ++ "` registered")

end Part

end MovieCatalogue.Journal

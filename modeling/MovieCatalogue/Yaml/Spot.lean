import MovieCatalogue.Yaml.Meaning
import MovieCatalogue.Yaml.Reader

/-!
Contract: what YAML nodes are about.

Owns: `Spot`, a node with the path that leads to it; refusals of what stands
there; and the reading of scalars, sequences and mappings. A refusal tells the
path and the position of the first spot around its cause that is looked at as a
whole. A node that stands for another one is read as that one, and a document
allows only so many of these jumps; nodes may stand only so deep in each other.
What is written first is read first, so the first fault is the one reported, also
if it is one of the text itself.
Does not own: structures, see `Yaml.Structure`; contents of any kind, see
`Yaml.ContentReading`.
-/

namespace MovieCatalogue.Yaml

open MovieCatalogue.Record

/-- Why a document is refused. -/
inductive Refusal where
  /-- A reason that is said without a place so far. -/
  | reason (text : String)
  /-- All that is said. -/
  | complete (text : String)
  /-- Nothing can be said, and nothing can go on. -/
  | breakOff
deriving DecidableEq, Repr

/-- All that is said about a refusal that gets no place any more, if anything is. -/
def Refusal.message? : Refusal → Option String
  | .reason text | .complete text => some text
  | .breakOff => none

/-- Reading, which counts the jumps that are left. -/
abbrev Decoding (α : Type) := StateT Nat (Except Refusal) α

/-- A node with the path that leads to it from the start of its document. -/
structure Spot where
  path : String
  node : Yaml
  /-- How many levels deeper nodes may stand. -/
  levels : Nat
  /-- The nodes that other nodes may stand for. -/
  labels : Labels

namespace Spot

variable {α : Type}

/-- The greatest number of nodes that stand in each other. -/
def greatestDepth : Nat := 128

def ofDocument (document : Document) : Spot :=
  ⟨"", document.root, greatestDepth, document.labels⟩

def jumpsOf (document : Document) : Nat :=
  document.length * 100

/-- The name of a member by its key in paths; a key that is no scalar has none. -/
def keyName (key : Yaml) : String :=
  key.text?.getD "?"

/-- The spot of a key, which has no path of its own. -/
def key (spot : Spot) (key : Yaml) : Spot :=
  { spot with node := key }

def member (spot : Spot) (key node : Yaml) : Spot :=
  { spot with
    path := if spot.path.isEmpty then keyName key else spot.path ++ "." ++ keyName key
    node := node }

def item (spot : Spot) (index : Nat) (node : Yaml) : Spot :=
  { spot with path := spot.path ++ "[" ++ Number.natText index ++ "]", node := node }

/-! ## Refusals -/

def refuse (reason : String) : Decoding α :=
  throw (.reason reason)

/-- Refusal because of an error of decoding. -/
def refuseError (error : DecodeError) : Decoding α :=
  refuse (error.message .stored)

/-- A reason with the path and the position of a spot. -/
def placed (spot : Spot) (reason : String) : String :=
  (if spot.path.isEmpty then "" else spot.path ++ ": ") ++ reason ++ spot.node.start.phrase

/-- Reading whose refusals tell at least the place of this spot. -/
def locate (spot : Spot) (read : Decoding α) : Decoding α :=
  tryCatch read fun
    | .reason text => throw (.complete (spot.placed text))
    | refusal => throw refusal

def meaning (tag : Option Tag) (style : Style) (text : String) : Decoding Meaning :=
  match Meaning.ofScalar tag style text with
  | .ok meaning => return meaning
  | .error expected =>
    refuse ("invalid value: string " ++ Text.quoted text ++ ", expected " ++ expected)

/-- Refusal of something because another thing was expected. -/
def refuseFor (found expected : String) : Decoding α :=
  refuse ("invalid type: " ++ found ++ ", expected " ++ expected)

def refuseKind (spot : Spot) (expected : String) : Decoding α :=
  match spot.node with
  | .broken fault => throw (.complete fault.message)
  | .scalar _ tag style text => do
    refuseFor (← meaning tag style text).describe expected
  | .sequence _ _ _ => refuseFor "sequence" expected
  | .mapping _ _ _ => refuseFor "map" expected
  | .alias _ _ => refuseFor "enum" expected

/-! ## Jumps and levels -/

def jump : Decoding Unit := do
  match ← get with
  | 0 => throw (.complete "repetition limit exceeded")
  | jumps + 1 => set jumps

/-- The spot itself, or that of the node which its node stands for; the way there stays the same. -/
def follow (spot : Spot) : Decoding Spot := do
  match spot.node with
  | .alias start label =>
    jump
    let unknown : Yaml := .broken { problem := .unknownName, position := start }
    return { spot with node := (spot.labels.node? label).getD unknown }
  | _ => return spot

/-- Reads a node, or the one that it stands for. -/
def read (spot : Spot) (reader : Spot → Decoding α) : Decoding α :=
  spot.locate do
    let target ← spot.follow
    target.locate (reader target)

def refuseDepth (spot : Spot) : Decoding α :=
  throw (.complete ("recursion limit exceeded" ++ spot.node.start.phrase))

/-- The spot one level deeper, where there is one. -/
def deeper (spot : Spot) : Decoding Spot :=
  match spot.levels with
  | 0 => spot.refuseDepth
  | levels + 1 => return { spot with levels := levels }

/-! ## Scalars, sequences and mappings -/

def text (spot : Spot) : Decoding String :=
  spot.read fun spot =>
    match spot.node.text? with
    | some text => return text
    | none => spot.refuseKind "a string"

/-- Whether a scalar may be a truth value. -/
def mayBeBool (tag : Option Tag) (style : Style) : Bool :=
  style = .plain || (style = .literal && tag = some (Tag.core "bool"))

def bool (spot : Spot) : Decoding Bool :=
  spot.read fun spot =>
    match spot.node with
    | .scalar _ tag style text =>
      match if mayBeBool tag style then readBool? text else none with
      | some b => return b
      | none => spot.refuseKind "a boolean"
    | _ => spot.refuseKind "a boolean"

/-- The items of a sequence, from a number on. -/
def readItems (spot : Spot) (reader : Spot → Decoding α) (index : Nat) :
    List Yaml → Decoding (List α)
  | [] => return []
  | node :: nodes => do
    let value ← reader (spot.item index node)
    return value :: (← spot.readItems reader (index + 1) nodes)

/-- The items of a sequence; where nothing is written there is none. -/
def items (spot : Spot) (reader : Spot → Decoding α) : Decoding (List α) :=
  spot.read fun spot => do
    match spot.node with
    | .sequence _ _ nodes => (← spot.deeper).readItems reader 0 nodes
    | node => if node.isMissing then return [] else spot.refuseKind "a sequence"

def readMembers (spot : Spot) (reader : String → Spot → Decoding α) :
    List (Yaml × Yaml) → Decoding (Fields α)
  | [] => return []
  | (key, node) :: members => do
    let name ← (spot.key key).text
    let value ← reader name (spot.member key node)
    return (name, value) :: (← spot.readMembers reader members)

/-- The members of a mapping by their names, of which the last one of each counts. -/
def members (spot : Spot) (reader : String → Spot → Decoding α) : Decoding (Fields α) :=
  spot.read fun spot => do
    match spot.node with
    | .mapping _ _ members => return Fields.collapse (← (← spot.deeper).readMembers reader members)
    | node => if node.isMissing then return [] else spot.refuseKind "a map"

end Spot

end MovieCatalogue.Yaml

import MovieCatalogue.Yaml.Spot

/-!
Contract: structures as YAML mappings.

Owns: `Slot`, a part of a structure by its name; and the reading of a structure,
whose parts may be left out but not repeated, and which has no other members. The
parts are read in the order in which they are written; only then it shows whether
one is missing.
Does not own: which structures there are; see `Journal.SetupReading`.
-/

namespace MovieCatalogue.Yaml

open MovieCatalogue.Record

/-- A part of a structure: its name, and how what is known of the structure takes it up. -/
structure Slot (σ : Type) where
  name : String
  take : Spot → σ → Decoding σ

/-- A part that is read on its own and then put in its place. -/
def Slot.of {σ α : Type} (name : String) (read : Spot → Decoding α) (put : σ → α → σ) : Slot σ :=
  ⟨name, fun spot known => return put known (← read spot)⟩

namespace Spot

variable {σ α : Type}

def slot (spot : Spot) (slots : List (Slot σ)) : Decoding (Slot σ) :=
  spot.read fun spot =>
    match spot.node.text? with
    | none => spot.refuseKind "field identifier"
    | some name =>
      match slots.find? fun slot => slot.name == name with
      | some slot => return slot
      | none => refuseError (.unknownField name (slots.map Slot.name))

/-- What is known of a structure when its members are read, given the names of those before. -/
def readSlots (spot : Spot) (slots : List (Slot σ)) (known : σ) (before : List String) :
    List (Yaml × Yaml) → Decoding σ
  | [] => return known
  | (key, node) :: members => do
    let slot ← (spot.key key).slot slots
    if before.contains slot.name then refuseError (.repeatedField slot.name)
    let known ← slot.take (spot.member key node) known
    spot.readSlots slots known (slot.name :: before) members

/-- A structure by its name and its parts, of which nothing is known before. -/
def parts (spot : Spot) (name : String) (slots : List (Slot σ)) (unknown : σ)
    (finish : σ → Decoding α) : Decoding α :=
  spot.read fun spot => do
    match spot.node with
    | .mapping _ _ members => finish (← (← spot.deeper).readSlots slots unknown [] members)
    | node => if node.isMissing then finish unknown else spot.refuseKind ("struct " ++ name)

/-- A part that must be there. -/
def required (name : String) : Option α → Decoding α
  | some value => return value
  | none => refuseError (.missingField name)

end Spot

end MovieCatalogue.Yaml

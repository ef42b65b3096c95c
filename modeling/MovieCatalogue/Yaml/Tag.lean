/-!
Contract: tags of YAML nodes.

Owns: `Tag`, which is written in bytes and therefore need not be a text; the tags of
the language itself; and the names of tags that have no meaning by themselves.
Does not own: how tags are written, see `Yaml.Token`; what they make of a scalar,
see `Yaml.Meaning`.
-/

namespace MovieCatalogue.Yaml

inductive Tag where
  | text (s : String)
  /-- Bytes that are no text, and whether an exclamation mark is the first of them. -/
  | garbled (marked : Bool)
deriving DecidableEq, Repr

/-- The start of the tags of the language itself. -/
def coreStem : String := "tag:yaml.org,2002:"

namespace Tag

def core (name : String) : Tag :=
  .text (coreStem ++ name)

/-- The tag that some bytes are. -/
def ofBytes (bytes : List UInt8) : Tag :=
  match String.fromUTF8? ⟨bytes.toArray⟩ with
  | some s => .text s
  | none => .garbled (bytes.head? == some 0x21)

/-- Whether a tag starts with an exclamation mark and so has no meaning by itself. -/
def isMarked : Tag → Bool
  | .text s => s.toList.head? == some '!'
  | .garbled marked => marked

/-- The name of a tag that has no meaning by itself, if it is a text. -/
def ownName? : Tag → Option String
  | .text s =>
    match s.toList with
    | ['!'] => some s
    | '!' :: name => some (String.ofList name)
    | _ => none
  | .garbled _ => none

end Tag

end MovieCatalogue.Yaml

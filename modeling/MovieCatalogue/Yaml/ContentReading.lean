import MovieCatalogue.Yaml.Content
import MovieCatalogue.Yaml.Spot

/-!
Contract: contents of any kind from YAML nodes.

Owns: the content that a node stands for. A node may not have a tag that has no
meaning by itself, and an integer must fit a word.
Does not own: what contents are about; see `Journal.Part`.
-/

namespace MovieCatalogue.Yaml

def Meaning.toContent : Meaning → Decoding Content
  | .nothing => return .nothing
  | .bool b => return .bool b
  | .integer n signed =>
    if (wideName? n signed).isSome then
      Spot.refuseFor (Meaning.integer n signed).describe "any value"
    else return .integer n signed
  | .real x => return .real x
  | .text s => return .text s

namespace Spot

/-- Refuses a node that has a tag without a meaning by itself. -/
def refuseOwnTag (spot : Spot) (expected : String) : Decoding Unit :=
  if spot.node.ownTag?.isSome then refuseFor "enum" expected else return

/-- Contents of keys and of values, each key before its value. -/
def contentMembers (spot : Spot) (read : Spot → Decoding Content) :
    List (Yaml × Yaml) → Decoding (List (Content × Content))
  | [] => return []
  | (key, node) :: members => do
    let name ← read (spot.key key)
    let content ← read (spot.member key node)
    return (name, content) :: (← spot.contentMembers read members)

/-- What a node stands for, given how many levels deeper nodes may stand. -/
def readContent (levels : Nat) (spot : Spot) : Decoding Content :=
  spot.read fun spot => do
    spot.refuseOwnTag "any value"
    match spot.node, levels with
    | .scalar _ tag style text, _ => (← meaning tag style text).toContent
    | .sequence _ _ nodes, levels + 1 =>
      return .sequence (← (← spot.deeper).readItems (readContent levels) 0 nodes)
    | .mapping _ _ members, levels + 1 =>
      return .mapping
        (Content.ordered (← (← spot.deeper).contentMembers (readContent levels) members))
    | .sequence _ _ _, 0 | .mapping _ _ _, 0 => spot.refuseDepth
    | .alias _ _, _ | .broken _, _ => spot.refuseKind "any value"

def content (spot : Spot) : Decoding Content :=
  readContent spot.levels spot

/-- The members of a mapping of any kind. -/
def contents (spot : Spot) : Decoding (List (Content × Content)) :=
  spot.read fun spot => do
    match spot.node with
    | .mapping _ _ members =>
      let inner ← spot.deeper
      return Content.ordered (← inner.contentMembers content members)
    | node => if node.isMissing then return [] else spot.refuseKind "a map"

end Spot

end MovieCatalogue.Yaml

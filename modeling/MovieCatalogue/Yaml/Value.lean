import MovieCatalogue.Yaml.Tag
import MovieCatalogue.Yaml.Token

/-!
Contract: YAML nodes.

Owns: `Yaml`, in which a scalar is its text and remembers how it is written, and
every node remembers where it starts. A node that stands for another one has the
label of that one, so a node may stand within the one that it stands for. Where a
text breaks off, a node that is `broken` stands in the place of the rest.
Does not own: texts of documents, see `Yaml.Reader`; what scalars stand for, see
`Yaml.Meaning`.
-/

namespace MovieCatalogue

inductive Yaml where
  | scalar (start : Yaml.Position) (tag : Option Yaml.Tag) (style : Yaml.Style) (text : String)
  | sequence (start : Yaml.Position) (tag : Option Yaml.Tag) (items : List Yaml)
  | mapping (start : Yaml.Position) (tag : Option Yaml.Tag) (members : List (Yaml × Yaml))
  /-- The node that has a label. -/
  | alias (start : Yaml.Position) (label : Nat)
  /-- What could not be read. -/
  | broken (fault : Yaml.Fault)
deriving Inhabited

namespace Yaml

/-- What stands where nothing is written. -/
def blank (start : Position) : Yaml :=
  .scalar start none .plain ""

def start : Yaml → Position
  | .scalar start _ _ _ | .sequence start _ _ | .mapping start _ _ | .alias start _ => start
  | .broken fault => fault.position

/-- Whether nothing is written. -/
def isMissing : Yaml → Bool
  | .scalar _ _ .plain "" => true
  | _ => false

def text? : Yaml → Option String
  | .scalar _ _ _ text => some text
  | _ => none

/-! ## Tags -/

/-- The tag that a node has, if it has one. -/
def tag? : Yaml → Option Tag
  | .scalar _ tag _ _ | .sequence _ tag _ | .mapping _ tag _ => tag
  | .alias _ _ | .broken _ => none

/-- The name of the tag that a node has, if that has no meaning by itself. -/
def ownTag? (yaml : Yaml) : Option String :=
  yaml.tag?.bind Tag.ownName?

end Yaml

end MovieCatalogue

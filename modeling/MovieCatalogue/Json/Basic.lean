import MovieCatalogue.Fields
import MovieCatalogue.Number.Binary64

/-!
Contract: JSON values.

Owns: `Json`. Numbers without point and exponent are integers as long as they
fit a signed or an unsigned 64-bit word; all others are floating-point numbers.
The members of an object keep the order in which they were written.
Does not own: texts; see `Json.Reader` and `Json.Printer`.
-/

namespace MovieCatalogue

inductive Json where
  | null
  | bool (b : Bool)
  | int (n : Int)
  | real (x : Number.Binary64)
  | string (s : String)
  | array (items : List Json)
  | object (members : List (String × Json))
deriving Inhabited

namespace Json

def members? : Json → Option (Fields Json)
  | .object members => some members
  | _ => none

/-- The member of an object called `name`. -/
def member? (name : String) (json : Json) : Option Json :=
  json.members?.bind fun members => members.get? name

/-- A value that may be absent, absence being `null`. -/
def ofOption {α : Type} (f : α → Json) : Option α → Json
  | none => .null
  | some a => f a

mutual

/-- One member for each name in every object: the last value, at the first place. -/
def collapse : Json → Json
  | .array items => .array (collapseItems items)
  | .object members => .object (Fields.collapse (collapseMembers members))
  | other => other

/-- `collapse` on every item. -/
def collapseItems : List Json → List Json
  | [] => []
  | item :: items => collapse item :: collapseItems items

/-- `collapse` on the value of every member. -/
def collapseMembers : List (String × Json) → List (String × Json)
  | [] => []
  | (name, value) :: members => (name, collapse value) :: collapseMembers members

end

end Json

end MovieCatalogue

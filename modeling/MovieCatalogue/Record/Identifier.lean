import MovieCatalogue.RequestError
import MovieCatalogue.Selection.Query

/-!
Contract: identifiers.

Owns: reading an identifier against the key fields of an entity. With one key
field the whole identifier is its value; with several the identifier is cut at
underscores into as many parts as there are fields, so only the last part may
hold an underscore.
Does not own: whether a record has the identifier.
-/

namespace MovieCatalogue.Record

open MovieCatalogue.Selection

/-- The values of the key fields, in their order. -/
abbrev Identifier := List (String × String)

namespace Identifier

/-- Reads an identifier against the key fields. -/
def parse (fields : List String) (id : String) : Except RequestError Identifier :=
  match fields with
  | [field] => .ok [(field, id)]
  | _ =>
    let parts := Text.splitAtMost '_' fields.length id.toList
    if parts.length = fields.length then .ok (fields.zip (parts.map String.ofList))
    else
      .error (.invalid
        ("identifier '" ++ id ++ "' does not match '" ++ Text.join "_" fields ++ "'"))

def predicates (identifier : Identifier) : List Predicate :=
  identifier.map fun part => .equals part.1 part.2

end Identifier

end MovieCatalogue.Record

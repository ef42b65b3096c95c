import MovieCatalogue.Record.Shape
import MovieCatalogue.Selection.Page

/-!
Contract: pages from JSON.

Owns: the reading of a page from the object that `Page.toJson` writes, or from an
array of its parts in order.
Does not own: the decoder of an item.
-/

namespace MovieCatalogue.Selection.Page

open MovieCatalogue.Record

def shape {α : Type} (item : Decoder α) : Shape :=
  [part "page" Decoder.word,
   part "total_pages" Decoder.word,
   part "total_items" Decoder.word,
   part "items_per_page" Decoder.word,
   part "has_next" Decoder.bool,
   part "has_prev" Decoder.bool,
   part "items" (Decoder.list item)]

/-- The first part that an array is too short for makes the array too short. -/
def checkLength (parts : Nat) : Json → Except DecodeError Unit
  | .array items =>
    if items.length < parts then
      .error (.wrongLength items.length
        ("struct Page with " ++ Number.natText parts ++ " elements"))
    else .ok ()
  | _ => .ok ()

def ofJson {α : Type} (item : Decoder α) (json : Json) : Except DecodeError (Page α) := do
  let members ← (shape item).members "Page" json
  checkLength (shape item).length json
  return {
    page := ← Shape.required members "page" Decoder.word
    totalPages := ← Shape.required members "total_pages" Decoder.word
    totalItems := ← Shape.required members "total_items" Decoder.word
    itemsPerPage := ← Shape.required members "items_per_page" Decoder.word
    hasNext := ← Shape.required members "has_next" Decoder.bool
    hasPrev := ← Shape.required members "has_prev" Decoder.bool
    items := ← Shape.required members "items" (Decoder.list item) }

end MovieCatalogue.Selection.Page

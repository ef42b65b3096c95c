import MovieCatalogue.Number.Integer
import MovieCatalogue.Record.Datum

/-!
Contract: pages of a result.

Owns: `Page`, some consecutive items with their place in the whole result, the
number of pages of a result, and pages as JSON. An empty result has one page.
Does not own: running the query; see `Endpoint.Listing`.
-/

namespace MovieCatalogue.Selection

open MovieCatalogue.Number MovieCatalogue.Record

/-- Consecutive items of a result. Pages count from one. -/
structure Page (α : Type) where
  page : Nat
  totalPages : Nat
  totalItems : Nat
  itemsPerPage : Nat
  hasNext : Bool
  hasPrev : Bool
  items : List α
deriving DecidableEq, Repr

/-- The number of pages of `total` items; a page size of zero gives one page. -/
def totalPages (total limit : Nat) : Nat :=
  if limit = 0 then 1 else max (ceilDiv total limit) 1

namespace Page

variable {α β : Type}

def withItems (p : Page α) (items : List β) : Page β :=
  ⟨p.page, p.totalPages, p.totalItems, p.itemsPerPage, p.hasNext, p.hasPrev, items⟩

/-- Applies a function to every item. -/
def map (f : α → β) (p : Page α) : Page β :=
  p.withItems (p.items.map f)

/-- Applies a function to every item, up to the first that it refuses. -/
def tryMap {ε : Type} (f : α → Except ε β) (p : Page α) : Except ε (Page β) :=
  (p.items.mapM f).map p.withItems

def toJson (item : α → Json) (p : Page α) : Json :=
  .object
    [("page", .int p.page),
     ("total_pages", .int p.totalPages),
     ("total_items", .int p.totalItems),
     ("items_per_page", .int p.itemsPerPage),
     ("has_next", .bool p.hasNext),
     ("has_prev", .bool p.hasPrev),
     ("items", .array (p.items.map item))]

end Page

end MovieCatalogue.Selection

import MovieCatalogue.Journal.Event
import MovieCatalogue.Record.Shape
import MovieCatalogue.RequestError
import MovieCatalogue.Selection.Page
import MovieCatalogue.Storage.Store

/-!
Contract: lists in pages.

Owns: the parameters of a list and their bounds, and the answer to a query in
pages: one count, then one bounded fetch. A page beyond the last is refused
before any row is fetched.
Does not own: which query the parameters make; see `Token.Resolution`.
-/

namespace MovieCatalogue.Endpoint

open MovieCatalogue.Number MovieCatalogue.Record MovieCatalogue.Selection MovieCatalogue.Storage

/-- The page sizes that lists may have. -/
structure PageLimits where
  defaultPageSize : Nat := 10
  maxPageSize : Nat := 1000
deriving DecidableEq, Repr

/-- The parameters of a list; `sort` and `filter` may be repeated. -/
structure ListParams where
  page : Int64 := 1
  limit : Option Int64 := none
  sort : List String := []
  filter : List String := []
deriving DecidableEq

namespace ListParams

def integer (name value : String) : Except RequestError Int64 :=
  match readInt64? value with
  | some n => .ok n
  | none => .error (.invalid (name ++ " must be an integer"))

/-- Reads one query pair. Unrelated names do not matter. -/
def addPair (params : ListParams) (pair : String × String) : Except RequestError ListParams :=
  match pair.1 with
  | "page" => do return { params with page := ← integer pair.1 pair.2 }
  | "limit" => do return { params with limit := some (← integer pair.1 pair.2) }
  | "sort" => .ok { params with sort := params.sort ++ [pair.2] }
  | "filter" => .ok { params with filter := params.filter ++ [pair.2] }
  | _ => .ok params

def ofPairs (pairs : List (String × String)) : Except RequestError ListParams :=
  pairs.foldlM addPair {}

def shape : Shape :=
  [part "page" Decoder.int64,
   part "limit" (Decoder.optional Decoder.int64),
   part "sort" (Decoder.list Decoder.text),
   part "filter" (Decoder.list Decoder.text)]

/-- Reads the parameters from a JSON value. -/
def ofJson (json : Json) : Except DecodeError ListParams := do
  let members ← shape.members "ListParams" json
  return {
    page := ← Shape.withDefault members "page" Decoder.int64 1
    limit := ← Shape.withDefault members "limit" (Decoder.optional Decoder.int64) none
    sort := ← Shape.withDefault members "sort" (Decoder.list Decoder.text) []
    filter := ← Shape.withDefault members "filter" (Decoder.list Decoder.text) [] }

/-- The page, which counts from one. -/
def resolvePage (params : ListParams) : Except RequestError Nat :=
  if 0 < params.page.toInt then .ok params.page.toInt.toNat
  else .error (.invalid "page number exceeds limits")

/-- The page size, the default one unless it is given. -/
def resolveLimit (limits : PageLimits) (params : ListParams) : Except RequestError Nat :=
  match params.limit with
  | none => .ok limits.defaultPageSize
  | some limit =>
    if 1 ≤ limit.toInt ∧ limit.toInt ≤ limits.maxPageSize then .ok limit.toInt.toNat
    else
      .error (.invalid ("limit must be between 1 and " ++ natText limits.maxPageSize))

/-- The page and the page size, within their bounds. -/
def resolve (params : ListParams) (limits : PageLimits) : Except RequestError (Nat × Nat) := do
  let page ← params.resolvePage
  let limit ← params.resolveLimit limits
  return (page, limit)

end ListParams

/-- A storage error that no client can cause. -/
def internally {α : Type} : Except StoreError α → Except RequestError α :=
  Except.mapError .internal

/-- The rows before a page. The product does not go past the largest word. -/
def pageOffset (page limit : Nat) : Nat :=
  saturateWord ((page - 1) * limit)

def paginate (store : Store) (query : Query) (page limit : Nat) :
    Except RequestError (Page Row) := do
  if limit = 0 then
    throw (.invalid "limit must be greater than zero")
  let total ← internally (store.count query)
  let pages := totalPages total limit
  if page = 0 ∨ pages < page then
    throw (.invalid "page number exceeds limits")
  let items ← internally (store.fetch query (pageOffset page limit) (some limit))
  return {
    page := page
    totalPages := pages
    totalItems := total
    itemsPerPage := limit
    hasNext := page < pages
    hasPrev := 1 < page
    items := items }

/-- What is told of a query that was answered with a page, in `elapsed` milliseconds. -/
def pagedEvent (query : Query) (page limit elapsed : Nat) (rows : Page Row) : Journal.Event :=
  .paged ⟨query, page, limit, rows.totalItems, elapsed⟩

end MovieCatalogue.Endpoint

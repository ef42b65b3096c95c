import MovieCatalogue.Selection.Pattern

/-!
Contract: queries.

Owns: predicates over one field, order terms, and the query that puts them over
one table; and their written form, by which a query is traced and accounted for.
Literals stay texts: they are bound to the type of the column when the query
runs.
Does not own: running a query; see `Selection.Evaluation`.
-/

namespace MovieCatalogue.Selection

/-- A condition on one field. -/
inductive Predicate where
  | equals (field literal : String)
  | like (field : String) (pattern : Pattern)
  | oneOf (field : String) (literals : List String)
deriving DecidableEq, Repr

/-- The direction of an order term. -/
inductive Direction where
  | ascending
  | descending
deriving DecidableEq, Repr

structure OrderTerm where
  field : String
  direction : Direction
deriving DecidableEq, Repr

/-- All rows of a table that satisfy every predicate, in the order of the terms. -/
structure Query where
  table : String
  predicates : List Predicate := []
  order : List OrderTerm := []
deriving DecidableEq, Repr

/-- A literal between apostrophes; an apostrophe inside is written twice. -/
def literalText (s : String) : String :=
  String.ofList
    ('\x27' :: s.toList.flatMap (fun c => if c = '\x27' then ['\x27', '\x27'] else [c]) ++ ['\x27'])

namespace Predicate

def field : Predicate → String
  | .equals field _ | .like field _ | .oneOf field _ => field

def text : Predicate → String
  | .equals field literal => field ++ " = " ++ literalText literal
  | .like field pattern => field ++ " LIKE " ++ pattern.text
  | .oneOf field literals =>
    field ++ " IN (" ++ Text.join ", " (literals.map literalText) ++ ")"

end Predicate

namespace Direction

def text : Direction → String
  | .ascending => "asc"
  | .descending => "desc"

def ofText? : String → Option Direction
  | "asc" => some .ascending
  | "desc" => some .descending
  | _ => none

end Direction

def OrderTerm.text (term : OrderTerm) : String :=
  term.field ++ " " ++ term.direction.text

namespace Query

/-- The fields that a query names, predicates first. -/
def fields (query : Query) : List String :=
  query.predicates.map Predicate.field ++ query.order.map OrderTerm.field

def text (query : Query) : String :=
  "SELECT * FROM " ++ query.table ++
    (if query.predicates.isEmpty then ""
      else " WHERE " ++ Text.join " AND " (query.predicates.map Predicate.text)) ++
    (if query.order.isEmpty then ""
      else " ORDER BY " ++ Text.join ", " (query.order.map OrderTerm.text))

end Query

end MovieCatalogue.Selection

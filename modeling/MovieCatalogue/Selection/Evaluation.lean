import MovieCatalogue.Selection.Query
import MovieCatalogue.Storage.Column

/-!
Contract: what a query means on rows.

Owns: when a row satisfies a predicate, and the chained comparison of rows. An
absent value satisfies no predicate and comes before all others; a later order
term decides only between rows that all earlier ones leave tied.
Does not own: tables; see `Storage.Table`.
-/

namespace MovieCatalogue.Selection

open MovieCatalogue.Storage

/-- The value of a row under a name; a name that the row lacks is absent. -/
def valueAt (row : Row) (name : String) : Value :=
  (Fields.get? name row).getD .null

/-- Whether a value that is not absent satisfies the condition of a predicate. -/
def Predicate.accepts (predicate : Predicate) (kind : Kind) (value : Value) : Bool :=
  match predicate with
  | .equals _ literal =>
    match kind.readLiteral? literal with
    | some bound => value.ties bound
    | none => false
  | .like _ pattern =>
    match Kind.render? value with
    | some text => pattern.isMatch text
    | none => false
  | .oneOf _ literals => (literals.filterMap kind.readLiteral?).any value.ties

def Predicate.holds (spec : Spec) (row : Row) (predicate : Predicate) : Bool :=
  match spec.column? predicate.field with
  | none => false
  | some column =>
    let value := valueAt row column.name
    !value.isNull && predicate.accepts column.kind value

def satisfies (spec : Spec) (predicates : List Predicate) (row : Row) : Bool :=
  predicates.all fun predicate => predicate.holds spec row

def OrderTerm.compare (term : OrderTerm) (a b : Row) : Ordering :=
  let ordering := (valueAt a term.field).compare (valueAt b term.field)
  match term.direction with
  | .ascending => ordering
  | .descending => ordering.swap

def compareRows (order : List OrderTerm) (a b : Row) : Ordering :=
  match order with
  | [] => .eq
  | term :: terms => (term.compare a b).then (compareRows terms a b)

end MovieCatalogue.Selection

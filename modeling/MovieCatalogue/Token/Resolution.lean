import MovieCatalogue.Record.Entity
import MovieCatalogue.Token.Grammar
import MovieCatalogue.Token.Operator

/-!
Contract: queries from tokens.

Owns: the meaning of a token for an entity and the query that lists of tokens
make. A filter token is refused for its form first, then for its operator, then
for its field, then for its operand. The filters of a query are all resolved
before its sorts, and the first refusal refuses the query.
Does not own: running the query.
-/

namespace MovieCatalogue.Token

open MovieCatalogue.Record MovieCatalogue.Selection

def maxFilters : Nat := 32

def maxSorts : Nat := 8

def resolveFilter (entity : Entity) (token : String) : Except RequestError Predicate := do
  let parts ← FilterToken.parse token
  let op ← operator parts.operator
  entity.checkField parts.field
  op.kind.build parts.field parts.operand

def resolveSort (entity : Entity) (token : String) : Except RequestError OrderTerm := do
  let term ← parseSort token
  entity.checkField term.field
  return term

/-- Resolves all tokens of a parameter; the first refusal names its token. -/
def resolveAll {α : Type} (parameter : String) (resolve : String → Except RequestError α) :
    List String → Except RequestError (List α)
  | [] => .ok []
  | token :: tokens => do
    let first ← (resolve token).mapError (RequestError.invalidToken parameter token)
    return first :: (← resolveAll parameter resolve tokens)

/-- The query of filter and sort tokens over the table of an entity. -/
def buildQuery (entity : Entity) (filters sorts : List String) : Except RequestError Query := do
  if filters.length > maxFilters then
    throw (.invalid ("at most " ++ Number.natText maxFilters ++ " filters are allowed"))
  if sorts.length > maxSorts then
    throw (.invalid ("at most " ++ Number.natText maxSorts ++ " sort fields are allowed"))
  let predicates ← resolveAll "filter" (resolveFilter entity) filters
  let order ← resolveAll "sort" (resolveSort entity) sorts
  return ⟨entity.table, predicates, order⟩

end MovieCatalogue.Token

import MovieCatalogue.RequestError
import MovieCatalogue.Selection.Query

/-!
Contract: the grammar of filter and sort tokens.

Owns: `operator(field, operand)` and `field.direction`. A filter token is cut at
its first opening parenthesis and then at the first comma with a blank; only the
parenthesis at its very end closes it, so the operand may hold any text. Neither
the operator nor a field is empty.
Does not own: which operators and fields exist; see `Token.Resolution`.
-/

namespace MovieCatalogue.Token

open MovieCatalogue.Selection

/-- The parts of a filter token. -/
structure FilterToken where
  operator : String
  field : String
  operand : String
deriving DecidableEq, Repr

namespace FilterToken

def cut? (cs : List Char) : Option (List Char × List Char × List Char) := do
  let (operator, rest) ← Text.cutAt? ['('] cs
  let (field, rest) ← Text.cutAt? [',', ' '] rest
  let operand ← Text.stripEnd? [')'] rest
  if operator.isEmpty || field.isEmpty then none else some (operator, field, operand)

def parse (token : String) : Except RequestError FilterToken :=
  match cut? token.toList with
  | some (operator, field, operand) =>
    .ok ⟨String.ofList operator, String.ofList field, String.ofList operand⟩
  | none => .error (.malformedFilter token)

def text (token : FilterToken) : String :=
  token.operator ++ "(" ++ token.field ++ ", " ++ token.operand ++ ")"

end FilterToken

def cutSort? (cs : List Char) : Option (List Char × Direction) :=
  match Text.splitOn '.' cs with
  | [field, direction] =>
    match Direction.ofText? (String.ofList direction) with
    | some direction => if field.isEmpty then none else some (field, direction)
    | none => none
  | _ => none

def parseSort (token : String) : Except RequestError OrderTerm :=
  match cutSort? token.toList with
  | some (field, direction) => .ok ⟨String.ofList field, direction⟩
  | none => .error (.malformedSort token)

def sortText (term : OrderTerm) : String :=
  term.field ++ "." ++ term.direction.text

end MovieCatalogue.Token

import MovieCatalogue.Number.Digits
import MovieCatalogue.RequestError
import MovieCatalogue.Selection.Query

/-!
Contract: the filter operators.

Owns: the operators by name with their descriptions, in the order in which they
are documented, and the predicate that each of them makes of a field and an
operand.
Does not own: the grammar of tokens; see `Token.Grammar`.
-/

namespace MovieCatalogue.Token

open MovieCatalogue.Selection

/-- What an operator does with its operand. -/
inductive OperatorKind where
  | exact
  | like (anchor : Anchor)
  | anyOf
deriving DecidableEq, Repr

structure Operator where
  name : String
  description : String
  kind : OperatorKind
deriving DecidableEq, Repr

def maxSetSize : Nat := 1000

namespace OperatorKind

/-- The values between brackets, separated by bars. -/
def setMembers? (operand : String) : Option (List String) := do
  let inner ← Text.stripStart? ['['] operand.toList
  let inner ← Text.stripEnd? [']'] inner
  some ((Text.splitOn '|' inner).map String.ofList)

def build (kind : OperatorKind) (field operand : String) : Except RequestError Predicate :=
  match kind with
  | .exact => .ok (.equals field operand)
  | .like anchor => .ok (.like field ⟨anchor, operand⟩)
  | .anyOf =>
    match setMembers? operand with
    | none => .error (.malformedFilter operand)
    | some literals =>
      if literals.length > maxSetSize then
        .error (.invalid ("anyOf accepts at most " ++ Number.natText maxSetSize ++ " values"))
      else .ok (.oneOf field literals)

end OperatorKind

/-- The operators in the order of the documentation. -/
def operators : List Operator :=
  [⟨"exact", "Matches the exact value. Equivalent to <field = 'value'>", .exact⟩,
   ⟨"partial",
    "Matches the value as contained in the field. Equivalent to <field LIKE '%value%'>",
    .like .contains⟩,
   ⟨"start", "Matches the value as start of field. Equivalent to <field LIKE 'value%'>",
    .like .start⟩,
   ⟨"end", "Matches the value as end of field. Equivalent to <field LIKE '%value'>",
    .like .finish⟩,
   ⟨"word_start",
    "Matches the start of any word in the field. Equivalent to <field LIKE '% value%'>",
    .like .wordStart⟩,
   ⟨"anyOf",
    "Matches any field whose value is in the given set. Equivalent to " ++
      "<field IN (value1, value2, ...)>.<br>Value format should be a list of " ++
      "values separated by pipe symbol (e.g. anyOf(genre, [drama|romantic|action]))",
    .anyOf⟩,
   ⟨"in", "Same as anyOf (e.g. in(genre, [drama|romantic|action]))", .anyOf⟩]

def operator (name : String) : Except RequestError Operator :=
  match operators.find? fun op => op.name == name with
  | some op => .ok op
  | none => .error (.unknownOperator name)

def filterHelp : String :=
  "Filter data. Input format: operation(field, value). Available operations: <br>" ++
    Text.join "\n"
      (operators.map fun op => "<br>**-" ++ op.name ++ "**: " ++ op.description)

end MovieCatalogue.Token

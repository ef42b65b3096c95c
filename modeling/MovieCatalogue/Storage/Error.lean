import MovieCatalogue.Text.Cut

/-!
Contract: why a table refuses.

Owns: the causes for which storage refuses a question, a change or a saved file,
and their texts.
Does not own: what a client is told; see `RequestError`.
-/

namespace MovieCatalogue.Storage

inductive StoreError where
  | noSuchTable (table : String)
  | noSuchColumn (table column : String)
  | uniqueViolation (table : String) (columns : List String)
  | rowNotFound (table : String)
  | invalidValue (table column reason : String)
  | decode (reason : String)
  | io (reason : String)
  | snapshot (reason : String)
deriving DecidableEq, Repr

/-- The text of a storage error, in the pieces that it is worded in. -/
def StoreError.words : StoreError → List String
  | .noSuchTable table => ["Table not found: ", table]
  | .noSuchColumn table column => ["Column not found: ", table, ".", column]
  | .uniqueViolation table columns =>
    ["Unique constraint violated: ", table, "(", Text.join ", " columns, ")"]
  | .rowNotFound table => ["Row not found in ", table]
  | .invalidValue table column reason =>
    ["Invalid value for ", table, ".", column, ": ", reason]
  | .decode reason => ["Decode error: ", reason]
  | .io reason => ["I/O error: ", reason]
  | .snapshot reason => ["Snapshot error: ", reason]

def StoreError.message (error : StoreError) : String :=
  String.join error.words

end MovieCatalogue.Storage

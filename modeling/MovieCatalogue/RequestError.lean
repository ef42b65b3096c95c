import MovieCatalogue.Storage.Error

/-!
Contract: why a request is refused.

Owns: the causes for which a request is refused, their kinds, their texts, the
status that answers each kind, and the reading of storage errors as request
errors. A storage error that a client cannot cause is internal, and its text
never reaches the client.
Does not own: which operation meets which cause.
-/

namespace MovieCatalogue

open MovieCatalogue.Storage

/-- Why a request is refused. -/
inductive RequestError where
  | malformedFilter (token : String)
  | malformedSort (token : String)
  | unknownOperator (name : String)
  | unknownField (entity field : String)
  | notFound (entity : String)
  | alreadyExists (entity : String)
  /-- A parameter or payload that does not do, with the error of the token it holds, if any. -/
  | invalidParameter (message : String) (cause : Option RequestError)
  | internal (error : StoreError)

/-- The kinds of request errors, as documentation lists them. -/
inductive RequestError.Kind where
  | malformedFilterExpression
  | malformedSortExpression
  | unknownOperator
  | unknownField
  | resourceNotFound
  | resourceAlreadyExists
  | invalidParameter
  | internal
deriving DecidableEq, Repr

namespace RequestError

def Kind.all : List Kind :=
  [.malformedFilterExpression, .malformedSortExpression, .unknownOperator, .unknownField,
    .resourceNotFound, .resourceAlreadyExists, .invalidParameter, .internal]

def Kind.name : Kind → String
  | .malformedFilterExpression => "MalformedFilterExpression"
  | .malformedSortExpression => "MalformedSortExpression"
  | .unknownOperator => "UnknownOperator"
  | .unknownField => "UnknownField"
  | .resourceNotFound => "ResourceNotFound"
  | .resourceAlreadyExists => "ResourceAlreadyExists"
  | .invalidParameter => "InvalidParameter"
  | .internal => "Internal"

/-- The place of a kind in the order of all kinds. -/
def Kind.place (kind : Kind) : Nat :=
  Kind.all.idxOf kind

def Kind.status : Kind → Nat
  | .resourceNotFound => 404
  | .internal => 500
  | _ => 400

def Kind.description (entity : String) : Kind → String
  | .malformedFilterExpression => "Filter is not of the form operation(field, value)"
  | .malformedSortExpression => "Sort is not of the form field.\x7basc|desc\x7d"
  | .unknownOperator => "Filter operation is not supported"
  | .unknownField => entity ++ " has no such field"
  | .resourceNotFound => entity ++ " not found"
  | .resourceAlreadyExists => entity ++ " already exists"
  | .invalidParameter => "Invalid parameter"
  | .internal => "Internal server error"

def kind : RequestError → Kind
  | .malformedFilter _ => .malformedFilterExpression
  | .malformedSort _ => .malformedSortExpression
  | .unknownOperator _ => .unknownOperator
  | .unknownField _ _ => .unknownField
  | .notFound _ => .resourceNotFound
  | .alreadyExists _ => .resourceAlreadyExists
  | .invalidParameter _ _ => .invalidParameter
  | .internal _ => .internal

def status (error : RequestError) : Nat :=
  error.kind.status

/-- The text of an error, in the pieces that it is worded in. -/
def words : RequestError → List String
  | .malformedFilter token => ["Malformed filter expression: ", token]
  | .malformedSort token => ["Malformed sort expression: ", token]
  | .unknownOperator name => ["Unknown filter operator: ", name]
  | .unknownField entity field => [entity, " has no field '", field, "'"]
  | .notFound entity => [entity, " not found"]
  | .alreadyExists entity => [entity, " already exists"]
  | .invalidParameter message _ => [message]
  | .internal _ => ["Internal storage failure"]

def message (error : RequestError) : String :=
  String.join error.words

/-- The text that a client is told. Storage errors stay inside. -/
def clientMessage : RequestError → String
  | .internal _ => Kind.internal.description ""
  | error => error.message

/-- An invalid parameter without a token error behind it. -/
def invalid (message : String) : RequestError :=
  .invalidParameter message none

/-- The refusal of a request for one of its tokens. -/
def invalidToken (parameter token : String) (cause : RequestError) : RequestError :=
  .invalidParameter
    ("invalid " ++ parameter ++ " parameter '" ++ token ++ "': " ++ cause.message) (some cause)

/--
A storage error met while writing a record of `entity`. A taken key, a row that
vanished and a refused value are the client's concern; all else is internal.
-/
def ofStore (entity : String) : StoreError → RequestError
  | .uniqueViolation _ _ => .alreadyExists entity
  | .rowNotFound _ => .notFound entity
  | .invalidValue _ column reason => invalid ("invalid value for '" ++ column ++ "': " ++ reason)
  | error => .internal error

end RequestError

end MovieCatalogue

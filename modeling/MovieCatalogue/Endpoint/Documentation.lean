import MovieCatalogue.Endpoint.Registry
import MovieCatalogue.Endpoint.Request
import MovieCatalogue.Token.Operator

/-!
Contract: what clients are told about the service.

Owns: the help texts of the list parameters, the operators as JSON, and for every
route its five endpoints with the errors that each of them documents.
Does not own: the errors that an endpoint really meets.
-/

namespace MovieCatalogue.Endpoint

open MovieCatalogue.Token

def sortHelp : String :=
  "Sorting parameter given in the format field.\x7basc|desc\x7d (e.g. title.asc)"

def limitHelp : String :=
  "Max number of items per page"

def operatorsJson : Json :=
  .array (operators.map fun op =>
    .object [("operator", .string op.name), ("description", .string op.description)])

/-- An error that an endpoint documents. -/
structure ErrorDoc where
  status : Nat
  kind : RequestError.Kind
  description : String
deriving DecidableEq, Repr

/-- Whether one kind is documented before another: by status, then by the order of kinds. -/
def documentedBefore (a b : RequestError.Kind) : Bool :=
  ((compare a.status b.status).then (compare a.place b.place)).isLE

/-- The documentation of some kinds, each of them once, in order. -/
def errorDocs (entity : String) (kinds : List RequestError.Kind) : List ErrorDoc :=
  (kinds.mergeSort documentedBefore).eraseReps.map fun kind =>
    ⟨kind.status, kind, kind.description entity⟩

/-- An endpoint with its errors. -/
structure EndpointDoc where
  method : Method
  path : String
  summary : String
  errors : List ErrorDoc
deriving DecidableEq, Repr

def routeDocs (route : String) (entity : Record.Entity) : List EndpointDoc :=
  let all := "/" ++ route
  let one := all ++ "/\x7b" ++ entity.idSpec ++ "\x7d"
  let errors := errorDocs entity.name
  [⟨.get, all, "List " ++ entity.name ++ " records", errors [.invalidParameter]⟩,
   ⟨.post, all, "Create a " ++ entity.name, errors [.resourceAlreadyExists, .unknownField]⟩,
   ⟨.get, one, "Read one " ++ entity.name, errors [.resourceNotFound]⟩,
   ⟨.put, one, "Update a " ++ entity.name, errors [.resourceNotFound, .unknownField]⟩,
   ⟨.delete, one, "Delete a " ++ entity.name, errors [.resourceNotFound]⟩]

/-- The endpoints of all routes. -/
def endpointDocs (registry : Registry) : List EndpointDoc :=
  registry.routes.flatMap fun entry => routeDocs entry.1 entry.2

def ErrorDoc.toJson (doc : ErrorDoc) : Json :=
  .object
    [("status", .int doc.status),
     ("kind", .string doc.kind.name),
     ("description", .string doc.description)]

def EndpointDoc.toJson (doc : EndpointDoc) : Json :=
  .object
    [("method", .string doc.method.name),
     ("path", .string doc.path),
     ("summary", .string doc.summary),
     ("errors", .array (doc.errors.map ErrorDoc.toJson))]

/-- The whole documentation. -/
def documentation (registry : Registry) : Json :=
  .object
    [("filter", .string filterHelp),
     ("sort", .string sortHelp),
     ("limit", .string limitHelp),
     ("endpoints", .array ((endpointDocs registry).map EndpointDoc.toJson))]

end MovieCatalogue.Endpoint

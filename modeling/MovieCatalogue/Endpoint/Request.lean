import MovieCatalogue.Json.Basic
import MovieCatalogue.RequestError
import MovieCatalogue.Journal.Event

/-!
Contract: requests and responses.

Owns: the four methods, requests with their path, query pairs, body and token,
responses with their status, and the writing of identifiers as path segments:
the slash and the percent sign are escaped so that a segment never splits.
Does not own: what a path means; see `Endpoint.Dispatch`.
-/

namespace MovieCatalogue.Endpoint

inductive Method where
  | get
  | post
  | put
  | delete
deriving DecidableEq, Repr

namespace Method

def name : Method → String
  | .get => "GET"
  | .post => "POST"
  | .put => "PUT"
  | .delete => "DELETE"

/-- The method of a name in any case. -/
def parse (s : String) : Except RequestError Method :=
  match Text.upperAscii s with
  | "GET" => .ok .get
  | "POST" => .ok .post
  | "PUT" => .ok .put
  | "DELETE" => .ok .delete
  | other => .error (.invalid ("unsupported method " ++ other))

end Method

structure Request where
  method : Method
  path : String
  /-- Decoded query pairs in the order of arrival. -/
  query : List (String × String) := []
  body : Option Json := none
  token : Option String := none

def Request.call (request : Request) : Journal.Call :=
  ⟨request.method.name, request.path⟩

/-- The body of a request; a missing one is `null`. -/
def Request.payload (request : Request) : Json :=
  request.body.getD .null

def succeeds (status : Nat) : Bool :=
  200 ≤ status && status < 300

structure Response where
  status : Nat
  body : Json

namespace Response

def ok (body : Json) : Response := ⟨200, body⟩

def detail (status : Nat) (message : String) : Response :=
  ⟨status, .object [("detail", .string message)]⟩

def ofError (error : RequestError) : Response :=
  detail error.status error.clientMessage

/-- The answer to a path that nothing serves. -/
def routeNotFound : Response :=
  detail 404 "route not found"

end Response

def encodeSegment (id : String) : String :=
  let percent := Text.replaceAll '%' [] ['%', '2', '5'] id.toList
  String.ofList (Text.replaceAll '/' [] ['%', '2', 'F'] percent)

def decodeSegment (segment : String) : String :=
  let upper := Text.replaceAll '%' ['2', 'F'] ['/'] segment.toList
  let lower := Text.replaceAll '%' ['2', 'f'] ['/'] upper
  String.ofList (Text.replaceAll '%' ['2', '5'] ['%'] lower)

def segments (path : String) : List String :=
  ((Text.splitOn '/' path.toList).filter fun segment => !segment.isEmpty).map String.ofList

end MovieCatalogue.Endpoint

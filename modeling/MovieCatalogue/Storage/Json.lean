import MovieCatalogue.Json.Basic
import MovieCatalogue.Storage.Error
import MovieCatalogue.Storage.Extended

/-!
Contract: rows as JSON objects.

Owns: the two directions between JSON values and written values. Every JSON
value but an integer above the signed 64-bit words has a value, and the value of
an object may be something else than a document; every value has a JSON form, in
which the floating-point numbers that are not finite are objects naming them.
Does not own: the columns of a table. What documents stand for; see
`Storage.Extended`.
-/

namespace MovieCatalogue.Storage

open MovieCatalogue.Number

/-- Why a JSON value is no row. -/
inductive RowError where
  | notAnObject
  | tooLarge (n : Int)
  /-- An object that stands for something else than a document. -/
  | notADocument (sort : String)
deriving DecidableEq, Repr

def RowError.message : RowError → String
  | .notAnObject => "expected JSON object"
  | .tooLarge n =>
    "BSON does not support unsigned integers.\n                 " ++
      "An attempt to serialize the value: " ++ intText n ++
      " in a signed type failed due to the value's size."
  | .notADocument sort => "Could not be serialized to Document, got " ++ sort ++ " instead"

namespace Value

mutual

def ofJson : Json → Except RowError Value
  | .null => .ok .null
  | .bool b => .ok (.bool b)
  | .int n => if n ≤ maxInt64 then .ok (.int64 (Int64.ofInt n)) else .error (.tooLarge n)
  | .real x => .ok (.real x)
  | .string s => .ok (.text s)
  | .array items => do return .array (← ofJsonItems items)
  | .object members => do return ofMembers (← ofJsonMembers members)

def ofJsonItems : List Json → Except RowError (List Value)
  | [] => .ok []
  | item :: items => do return (← ofJson item) :: (← ofJsonItems items)

def ofJsonMembers : List (String × Json) → Except RowError (List (String × Value))
  | [] => .ok []
  | (name, value) :: members => do
    return (name, ← ofJson value) :: (← ofJsonMembers members)

end

/-- The JSON form of a floating-point number; the ones that are not finite are named. -/
def realToJson (x : Binary64) : Json :=
  if x.isFinite then .real x
  else
    let name := if x.isNaN then "NaN" else if x.negative then "-Infinity" else "Infinity"
    .object [("$numberDouble", .string name)]

mutual

def toJson : Value → Json
  | .null => .null
  | .bool b => .bool b
  | .int32 n => .int n.toInt
  | .int64 n => .int n.toInt
  | .real x => realToJson x
  | .text s => .string s
  | .array items => .array (toJsonItems items)
  | .document members | .foreign _ members => .object (toJsonMembers members)

def toJsonItems : List Value → List Json
  | [] => []
  | item :: items => toJson item :: toJsonItems items

def toJsonMembers : List (String × Value) → List (String × Json)
  | [] => []
  | (name, value) :: members => (name, toJson value) :: toJsonMembers members

end

end Value

/-- The row that a value is, which must be a document. -/
def Row.ofValue : Value → Except RowError Row
  | .document row => .ok row
  | other => .error (.notADocument other.sortName)

def Row.ofJson : Json → Except RowError Row
  | .object members => do Row.ofValue (← Value.ofJson (.object members))
  | _ => .error .notAnObject

def Row.toJson (row : Row) : Json :=
  .object (Value.toJsonMembers row)

end MovieCatalogue.Storage

import MovieCatalogue.Json.Basic
import MovieCatalogue.Number.Integer
import MovieCatalogue.Text.Cut

/-!
Contract: the values that rows hold.

Owns: `Value` and its two comparisons. `Value.compare` is the order of sorting,
of filters and of unique constraints: whole numbers, texts and truth values
compare among themselves, other numbers by the total order of floating-point
numbers, and values of different sorts by their sort. `Value.same` is the
equality by which a stored key is found.
Does not own: which values a column accepts; see `Storage.Column`. Which
documents are values of a foreign sort; see `Storage.Extended`.
-/

namespace MovieCatalogue.Storage

open MovieCatalogue.Number

/-- The sorts of values that are written as documents and that no column stores. -/
inductive Foreign where
  | objectId
  | symbol
  | decimal
  /-- Bytes, of which the number matters, with the number of what they are. -/
  | binary (subtype size : Nat)
  | code
  | scopedCode
  | timestamp
  | pattern
  | pointer
  | moment
  | least
  | greatest
  | undefined
deriving DecidableEq, Repr

def Foreign.name : Foreign → String
  | .objectId => "ObjectId"
  | .symbol => "Symbol"
  | .decimal => "Decimal128"
  | .binary _ _ => "Binary"
  | .code => "JavaScriptCode"
  | .scopedCode => "JavaScriptCodeWithScope"
  | .timestamp => "Timestamp"
  | .pattern => "RegularExpression"
  | .pointer => "DbPointer"
  | .moment => "DateTime"
  | .least => "MinKey"
  | .greatest => "MaxKey"
  | .undefined => "Undefined"

/-- A value as it is written to a table; a table stores only some of them. -/
inductive Value where
  | null
  | bool (b : Bool)
  | int32 (n : Int32)
  | int64 (n : Int64)
  | real (x : Binary64)
  | text (s : String)
  | array (items : List Value)
  | document (members : List (String × Value))
  /-- A value of a foreign sort, with the members of the document that it is written as. -/
  | foreign (sort : Foreign) (members : List (String × Value))
deriving Inhabited

/-- A row: values under column names. -/
abbrev Row := Fields Value

namespace Value

def isNull : Value → Bool
  | .null => true
  | _ => false

/-- A number as floating-point number, rounded to nearest. -/
def numeric? : Value → Option Binary64
  | .int32 n => some (.ofInt n.toInt)
  | .int64 n => some (.ofInt n.toInt)
  | .real x => some x
  | _ => none

/-- The number of a whole-number value. -/
def integer? : Value → Option Int
  | .int32 n => some n.toInt
  | .int64 n => some n.toInt
  | _ => none

/-- The sorts of values in their order: absent, truth values, numbers, texts, the rest. -/
def sortRank : Value → Nat
  | .null => 0
  | .bool _ => 1
  | .int32 _ | .int64 _ | .real _ => 2
  | .text _ => 3
  | .array _ | .document _ | .foreign _ _ => 4

def compare : Value → Value → Ordering
  | .int64 a, .int64 b => Ord.compare a.toInt b.toInt
  | .text a, .text b => Text.compareTexts a b
  | .bool a, .bool b => Ord.compare a.toNat b.toNat
  | a, b =>
    match a.numeric?, b.numeric? with
    | some x, some y => x.compareTotal y
    | _, _ => Ord.compare a.sortRank b.sortRank

/-- Whether two values stand at the same place of the order. -/
def ties (a b : Value) : Bool :=
  (a.compare b).isEq

/--
Equality of key values: the same sort and the same content, with the equality of
numbers for floating-point values. Values with parts are never stored, so they
equal no key value.
-/
def same : Value → Value → Bool
  | .null, .null => true
  | .bool a, .bool b => a == b
  | .int32 a, .int32 b => a == b
  | .int64 a, .int64 b => a == b
  | .real a, .real b => a.equals b
  | .text a, .text b => a == b
  | _, _ => false

def sortName : Value → String
  | .null => "Null"
  | .bool _ => "Boolean"
  | .int32 _ => "Int32"
  | .int64 _ => "Int64"
  | .real _ => "Double"
  | .text _ => "String"
  | .array _ => "Array"
  | .document _ => "EmbeddedDocument"
  | .foreign sort _ => sort.name

end Value

end MovieCatalogue.Storage

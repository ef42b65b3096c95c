import MovieCatalogue.Calendar.Reading
import MovieCatalogue.Number.Literal
import MovieCatalogue.Number.Notation
import MovieCatalogue.Storage.Value

/-!
Contract: columns and what they store.

Owns: the five kinds of column, the storage form of each kind, and the three
conversions around it: `Kind.coerce` brings a written value to storage form,
`Kind.readLiteral?` binds the text of a filter, and `Kind.render?` gives the text
that patterns are matched against. Also the declaration of a table: columns,
primary key and further unique constraints.
Does not own: the checks between the rows of a table; see `Storage.Table`.
-/

namespace MovieCatalogue.Storage

open MovieCatalogue.Number

/-- What a column holds. Dates are stored as their written form. -/
inductive Kind where
  | integer
  | real
  | text
  | boolean
  | date
deriving DecidableEq, Repr

namespace Kind

/-- The name of a kind in error texts and documentation. -/
def name : Kind → String
  | .integer => "Integer"
  | .real => "Real"
  | .text => "Text"
  | .boolean => "Boolean"
  | .date => "Date"

def ofName? (s : String) : Option Kind :=
  [Kind.integer, .real, .text, .boolean, .date].find? fun kind => kind.name == s

/-- Why a value cannot be stored. -/
inductive Refusal where
  | wrongSort (kind : Kind) (value : Value)
  | badDate (error : Calendar.DateError)

def Refusal.message : Refusal → String
  | .wrongSort kind value => "expected " ++ kind.name ++ ", got " ++ value.sortName
  | .badDate error => "expected date YYYY-MM-DD: " ++ error.message

/-- The signed 64-bit word nearest to an integer. -/
def saturate (n : Int) : Int64 :=
  Int64.ofInt (max minInt64 (min maxInt64 n))

/--
The storage form of a written value. Integers become 64-bit words, a whole
floating-point number the nearest such word; reals become floating-point
numbers; a date is read and written again.
-/
def coerce (kind : Kind) (value : Value) : Except Refusal Value :=
  match kind, value with
  | .integer, .int32 n => .ok (.int64 n.toInt64)
  | .integer, .int64 n => .ok (.int64 n)
  | .integer, .real x =>
    if x.isWhole then .ok (.int64 (saturate x.truncate)) else .error (.wrongSort kind value)
  | .real, .real x => .ok (.real x)
  | .real, .int32 n => .ok (.real (.ofInt n.toInt))
  | .real, .int64 n => .ok (.real (.ofInt n.toInt))
  | .text, .text s => .ok (.text s)
  | .boolean, .bool b => .ok (.bool b)
  | .date, .text s =>
    match Calendar.readDate .strict s.toList with
    | .ok found => .ok (.text found.text)
    | .error error => .error (.badDate error)
  | _, _ => .error (.wrongSort kind value)

/--
The value that the text of a filter stands for, in storage form. A text that
stands for no value of the kind matches no row.
-/
def readLiteral? (kind : Kind) (literal : String) : Option Value :=
  match kind with
  | .integer => (readInt64? (Text.trim literal)).map .int64
  | .real => ((readDecimal? (Text.trim literal)).filter Binary64.isFinite).map .real
  | .text => some (.text literal)
  | .boolean =>
    match Text.lowerAscii (Text.trim literal) with
    | "true" | "1" => some (.bool true)
    | "false" | "0" => some (.bool false)
    | _ => none
  | .date =>
    match Calendar.readDate .strict (Text.trimBlanks literal.toList) with
    | .ok found => some (.text found.text)
    | .error _ => none

/-- The text that a pattern is matched against; an absent value has none. -/
def render? : Value → Option String
  | .text s => some s
  | .int32 n => some (intText n.toInt)
  | .int64 n => some (intText n.toInt)
  | .real x => some (if x.isWhole then oneDecimal x else Layout.positional.text x)
  | .bool true => some "true"
  | .bool false => some "false"
  | .null | .array _ | .document _ | .foreign _ _ => none

end Kind

/-- A column of a table. -/
structure Column where
  name : String
  kind : Kind
  nullable : Bool := false
deriving DecidableEq, Repr

/-- The declaration of a table. -/
structure Spec where
  name : String
  columns : List Column
  primaryKey : List String
  /-- Unique constraints besides the primary key. -/
  unique : List (List String) := []
deriving DecidableEq, Repr

namespace Spec

/-- The column called `name`. -/
def column? (spec : Spec) (name : String) : Option Column :=
  spec.columns.find? fun column => column.name == name

/-- The sets of columns on which no two rows may agree, the primary key first. -/
def constraints (spec : Spec) : List (List String) :=
  spec.primaryKey :: spec.unique

/-- The only column of the primary key, if it is one column of integers. -/
def integerKey? (spec : Spec) : Option String :=
  match spec.primaryKey with
  | [key] =>
    match spec.column? key with
    | some column => if column.kind = .integer then some key else none
    | none => none
  | _ => none

end Spec

end MovieCatalogue.Storage

import MovieCatalogue.Number.Binary64
import MovieCatalogue.Text.Cut

/-!
Contract: contents of any kind.

Owns: `Content`, what stands where anything may stand: nothing, a truth value, a
number, a text, or a sequence or mapping of contents; the order of all contents;
and mappings in the order of their keys, in which a key stands once.
Does not own: the nodes that contents are read from; see `Yaml.Spot`.
-/

namespace MovieCatalogue.Yaml

open MovieCatalogue.Number

/-- What stands where anything may stand. -/
inductive Content where
  | nothing
  | bool (b : Bool)
  /-- A whole number; one with a minus sign is of a kind of its own. -/
  | integer (n : Int) (signed : Bool)
  | real (x : Binary64)
  | text (s : String)
  | sequence (items : List Content)
  | mapping (members : List (Content × Content))
deriving Inhabited

namespace Content

/-- The place of a kind among the kinds. -/
def kindRank : Content → Nat
  | .bool _ => 0
  | .integer _ false => 1
  | .integer _ true => 2
  | .real _ => 3
  | .text _ => 4
  | .nothing => 5
  | .sequence _ => 6
  | .mapping _ => 7

/-- The place of a number among the numbers: both zeros have one, and no number comes last. -/
def realRank (x : Binary64) : Int :=
  if x.isNaN then 2 ^ 63
  else if x.negative then -(x.magnitude : Int)
  else x.magnitude

mutual

/-- Contents in the order of their kinds; those of one kind in their own order. -/
def compare : Content → Content → Ordering
  | .bool a, .bool b => Ord.compare a.toNat b.toNat
  | .integer a true, .integer b true => Ord.compare a b
  | .integer a false, .integer b false => Ord.compare a b
  | .real a, .real b => Ord.compare (realRank a) (realRank b)
  | .text a, .text b => Text.compareTexts a b
  | .sequence a, .sequence b => compareItems a b
  | .mapping a, .mapping b => compareMembers a b
  | a, b => Ord.compare a.kindRank b.kindRank

/-- Sequences item by item, a beginning before what it begins. -/
def compareItems : List Content → List Content → Ordering
  | [], [] => .eq
  | [], _ :: _ => .lt
  | _ :: _, [] => .gt
  | a :: as, b :: bs => (compare a b).then (compareItems as bs)

def compareMembers : List (Content × Content) → List (Content × Content) → Ordering
  | [], [] => .eq
  | [], _ :: _ => .lt
  | _ :: _, [] => .gt
  | (key, a) :: as, (other, b) :: bs =>
    ((compare key other).then (compare a b)).then (compareMembers as bs)

end

/-! ## Mappings -/

/-- Members in the order of their keys, with one member more or another value for a key. -/
def put (key value : Content) : List (Content × Content) → List (Content × Content)
  | [] => [(key, value)]
  | (other, old) :: members =>
    match compare key other with
    | .lt => (key, value) :: (other, old) :: members
    | .eq => (other, value) :: members
    | .gt => (other, old) :: put key value members

/-- Members in the order of their keys, of which the last one of each counts. -/
def ordered (members : List (Content × Content)) : List (Content × Content) :=
  members.foldl (fun before member => put member.1 member.2 before) []

def isText (name : String) : Content → Bool
  | .text s => s == name
  | _ => false

def get? (name : String) (members : List (Content × Content)) : Option Content :=
  (members.find? fun member => member.1.isText name).map Prod.snd

/-- The members but for the one of a key that is a text. -/
def erase (name : String) (members : List (Content × Content)) : List (Content × Content) :=
  members.filter fun member => !member.1.isText name

end Content

end MovieCatalogue.Yaml

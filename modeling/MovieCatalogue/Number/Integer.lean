import MovieCatalogue.Number.Digits

/-!
Contract: whole numbers within fixed bounds.

Owns: the bounds of signed and unsigned 64-bit words and the reading of a
decimal text as such a number: an optional sign, then digits and nothing else.
Unsigned numbers take a plus sign only. A number outside its bounds does not
read.
Does not own: arithmetic on words.
-/

namespace MovieCatalogue.Number

/-- The largest unsigned 64-bit word. -/
def maxWord : Nat := 2 ^ 64 - 1

/-- The largest signed 64-bit word. -/
def maxInt64 : Int := 2 ^ 63 - 1

/-- The smallest signed 64-bit word. -/
def minInt64 : Int := -(2 ^ 63)

/-- Whether an integer is a signed 64-bit word. -/
def fitsInt64 (n : Int) : Bool :=
  minInt64 ≤ n && n ≤ maxInt64

/-- The number written by a run of one or more digits. -/
def readDigits? (cs : List Char) : Option Nat :=
  if !cs.isEmpty && cs.all isDigit then some (valueOf cs) else none

def readSigned? : List Char → Option Int
  | '-' :: cs => (readDigits? cs).map fun n => -(n : Int)
  | '+' :: cs => (readDigits? cs).map fun n => (n : Int)
  | cs => (readDigits? cs).map fun n => (n : Int)

/-- A signed 64-bit word from its decimal text. -/
def readInt64? (s : String) : Option Int64 :=
  match readSigned? s.toList with
  | some n => if fitsInt64 n then some (Int64.ofInt n) else none
  | none => none

def readUnsigned? : List Char → Option Nat
  | '+' :: cs => readDigits? cs
  | cs => readDigits? cs

/-- An unsigned 64-bit word from its decimal text. -/
def readWord? (s : String) : Option Nat :=
  (readUnsigned? s.toList).filter fun n => n ≤ maxWord

/-- The nearest unsigned 64-bit word. -/
def saturateWord (n : Nat) : Nat :=
  min n maxWord

/-- The unsigned word of a signed one; a negative number has none. -/
def wordOfInt? (n : Int) : Option Nat :=
  if n < 0 then none else some n.toNat

/-- The quotient of `n` by `d`, rounded up. A zero divisor gives zero. -/
def ceilDiv (n d : Nat) : Nat :=
  (n + d - 1) / d

end MovieCatalogue.Number

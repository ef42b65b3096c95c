import MovieCatalogue.Number.Operators

/-!
Contract: 64-bit binary floating-point numbers as data.

Owns: `Binary64`, a sign and the other 63 bits of the interchange format as one
natural number; exact decoding into `significand * 2 ^ exponent`; rounding of a
ratio to the nearest number, ties to the even significand; product and quotient
by exact arithmetic and one rounding; the two equalities and the total order.
Does not own: decimal texts; see `Number.Shortest`, `Number.Notation` and
`Number.Literal`.

Nothing here uses the machine type `Float`, whose operations cannot be reasoned
about. The magnitudes of two numbers of equal sign are ordered like their bit
patterns, so the total order is the order of one integer, `Binary64.rank`.
-/

namespace MovieCatalogue.Number

/-- A 64-bit binary floating-point number: its sign and its other 63 bits. -/
structure Binary64 where
  negative : Bool
  /-- Biased exponent (11 bits) and fraction (52 bits). -/
  magnitude : Nat
  bounded : magnitude < 2 ^ 63
deriving DecidableEq, Repr

namespace Binary64

/-- The magnitude of the infinities: all exponent bits set, no fraction. -/
def infinityMagnitude : Nat := 2047 * 2 ^ 52

/-- The least exponent, that of the subnormal numbers. -/
def leastExponent : Int := -1074

/-- The number of a sign and a magnitude; magnitudes past the finite range mean infinity. -/
def ofMagnitude (negative : Bool) (magnitude : Nat) : Binary64 :=
  ⟨negative, min magnitude infinityMagnitude, by
    have := Nat.min_le_right magnitude infinityMagnitude
    have : infinityMagnitude < 2 ^ 63 := by decide
    omega⟩

/-- Positive zero. -/
def zero : Binary64 := ofMagnitude false 0

def infinity : Binary64 := ofMagnitude false infinityMagnitude

/-- The quiet NaN with a clear sign. -/
def nan : Binary64 := ⟨false, 4095 * 2 ^ 51, by decide⟩

instance : Inhabited Binary64 := ⟨zero⟩

def neg (x : Binary64) : Binary64 := { x with negative := !x.negative }

/-- Neither infinite nor NaN. -/
def isFinite (x : Binary64) : Bool := x.magnitude < infinityMagnitude

/-- An exponent field of ones and a nonzero fraction. -/
def isNaN (x : Binary64) : Bool := infinityMagnitude < x.magnitude

/-- Either zero. -/
def isZero (x : Binary64) : Bool := x.magnitude == 0

/-- The integer significand of a finite number, below `2 ^ 53`. -/
def significand (x : Binary64) : Nat :=
  if x.magnitude < 2 ^ 52 then x.magnitude else x.magnitude % 2 ^ 52 + 2 ^ 52

/-- The power of two that goes with `significand`. -/
def exponent (x : Binary64) : Int :=
  if x.magnitude < 2 ^ 52 then leastExponent else (x.magnitude / 2 ^ 52 : Nat) - 1075

/-- Numerator of the absolute value of a finite number. -/
def numerator (x : Binary64) : Nat := x.significand * 2 ^ x.exponent.toNat

/-- Denominator of the absolute value of a finite number. -/
def denominator (x : Binary64) : Nat := 2 ^ (-x.exponent).toNat

/-- The quotient rounded to the nearest natural number, a half to the even neighbour. -/
def roundHalfEven (num den : Nat) : Nat :=
  let quotient := num / den
  let twice := 2 * (num % den)
  if twice < den then quotient
  else if den < twice then quotient + 1
  else if quotient % 2 = 0 then quotient
  else quotient + 1

/-- The ratio `num / (den * 2 ^ e)` as numerator and denominator. -/
def scaleDown (num den : Nat) (e : Int) : Nat × Nat :=
  (num * 2 ^ (-e).toNat, den * 2 ^ e.toNat)

/--
The exponent at which `num / den` has a significand of 53 bits, or the least
exponent for a ratio too small for that.
-/
def ratioExponent (num den : Nat) : Int :=
  let estimate : Int := (num.log2 : Int) - den.log2 - 52
  let scaled := scaleDown num den estimate
  max (if scaled.1 < scaled.2 * 2 ^ 52 then estimate - 1 else estimate) leastExponent

/--
The magnitude nearest to `num / den`. A significand that rounds up to the next
power of two carries into the exponent bits, which is the magnitude of that
power.
-/
def ratioMagnitude (num den : Nat) : Nat :=
  if num = 0 then 0
  else
    let e := ratioExponent num den
    let scaled := scaleDown num den e
    (e - leastExponent).toNat * 2 ^ 52 + roundHalfEven scaled.1 scaled.2

/-- The number nearest to `num / den` with the given sign. -/
def ofRatio (negative : Bool) (num den : Nat) : Binary64 :=
  ofMagnitude negative (ratioMagnitude num den)

/-- The number nearest to a natural number. -/
def ofNat (n : Nat) : Binary64 := ofRatio false n 1

/-- The number nearest to an integer. -/
def ofInt (n : Int) : Binary64 := ofRatio (n < 0) n.natAbs 1

/-- The product of two finite numbers. -/
def mul (x y : Binary64) : Binary64 :=
  ofRatio (x.negative != y.negative) (x.numerator * y.numerator) (x.denominator * y.denominator)

/-- The quotient of two finite numbers, the second not zero. -/
def div (x y : Binary64) : Binary64 :=
  ofRatio (x.negative != y.negative) (x.numerator * y.denominator) (x.denominator * y.numerator)

/-- A finite number without a fractional part. -/
def isWhole (x : Binary64) : Bool :=
  x.isFinite && x.numerator % x.denominator == 0

/-- The integer part of a finite number. -/
def truncate (x : Binary64) : Int :=
  let size : Int := (x.numerator / x.denominator : Nat)
  if x.negative then -size else size

/-- The place of a number in the total order: negative NaN, the reals with both zeros, NaN. -/
def rank (x : Binary64) : Int :=
  if x.negative then -(x.magnitude : Int) - 1 else x.magnitude

/-- The total order of all bit patterns. -/
def compareTotal (x y : Binary64) : Ordering :=
  compare x.rank y.rank

/-- Numeric equality: the zeros are equal and NaN equals nothing. -/
def equals (x y : Binary64) : Bool :=
  !x.isNaN && !y.isNaN && ((x.isZero && y.isZero) || decide (x = y))

end Binary64

end MovieCatalogue.Number

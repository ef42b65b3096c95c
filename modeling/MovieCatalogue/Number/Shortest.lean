import MovieCatalogue.Number.Binary64

/-!
Contract: the shortest decimal digits of a floating-point number.

Owns: the choice of digits. Every real between the midpoints to the two
neighbouring numbers rounds to the number itself; the midpoints do so exactly if
the significand is even. For one digit, two digits and so on up to seventeen
the two decimals around the exact value are tried, and the first length at which
one of them lies in that interval wins; of two hits the nearer one. Where both are
equally near, a `Tie` decides.
Does not own: where the decimal point goes; see `Number.Notation`.
-/

namespace MovieCatalogue.Number

/-- The decimal `digits * 10 ^ exponent`. -/
structure Decimal where
  digits : Nat
  exponent : Int
deriving DecidableEq, Repr

namespace Decimal

/-- The same value with no zero at the end of the digits. -/
def stripZeros (d : Decimal) : Decimal :=
  if _stop : d.digits = 0 ∨ d.digits % 10 ≠ 0 then d
  else stripZeros ⟨d.digits / 10, d.exponent + 1⟩
termination_by d.digits
decreasing_by omega

end Decimal

def digitCount (n : Nat) : Nat :=
  if _small : n < 10 then 1 else digitCount (n / 10) + 1
termination_by n
decreasing_by omega

/--
The exponent `e` with `10 ^ (e - 1) ≤ num / den < 10 ^ e`, for a positive ratio.
-/
def decimalMagnitude (num den : Nat) : Int :=
  if den ≤ num then digitCount (num / den)
  else
    let places := digitCount (den / num)
    if num * 10 ^ (places - 1) = den then 2 - (places : Int) else 1 - (places : Int)

/-- Which of two equally near decimals is taken. -/
inductive Tie where
  /-- The one with even digits. -/
  | toEven
  /-- The greater one. -/
  | upward
deriving DecidableEq, Repr

namespace Tie

/-- Whether a tie goes to the lower of two neighbours, given its digits. -/
def takesLower : Tie → Nat → Bool
  | toEven, lower => lower % 2 == 0
  | upward, _ => false

end Tie

/-- The reals that round to one number, over a common denominator. -/
structure RoundingInterval where
  value : Nat
  low : Nat
  high : Nat
  denominator : Nat
  closed : Bool

namespace RoundingInterval

def of (x : Binary64) : RoundingInterval :=
  let scale := 2 ^ x.exponent.toNat
  let lowerGap :=
    if x.significand = 2 ^ 52 ∧ x.exponent ≠ Binary64.leastExponent then scale else 2 * scale
  let value := 4 * x.significand * scale
  ⟨value, value - lowerGap, value + 2 * scale, 4 * x.denominator, x.significand % 2 == 0⟩

/-- Whether `digits * 10 ^ exponent` lies in the interval. -/
def contains (interval : RoundingInterval) (d : Decimal) : Bool :=
  let candidate := d.digits * 10 ^ d.exponent.toNat * interval.denominator
  let unit := 10 ^ (-d.exponent).toNat
  if interval.closed then
    interval.low * unit ≤ candidate && candidate ≤ interval.high * unit
  else
    interval.low * unit < candidate && candidate < interval.high * unit

/-- The decimals with a given exponent on both sides of the value. -/
def neighbours (interval : RoundingInterval) (exponent : Int) : Decimal × Decimal :=
  let below :=
    interval.value * 10 ^ (-exponent).toNat / (interval.denominator * 10 ^ exponent.toNat)
  (⟨below, exponent⟩, ⟨below + 1, exponent⟩)

/-- Whether the lower of two neighbours is taken: the nearer one, or as the tie says. -/
def lowerIsNearer (tie : Tie) (interval : RoundingInterval) (lower : Decimal) : Bool :=
  let unit := 10 ^ (-lower.exponent).toNat
  let twice := 2 * interval.value * unit
  let middle := (2 * lower.digits + 1) * 10 ^ lower.exponent.toNat * interval.denominator
  twice < middle || (twice == middle && tie.takesLower lower.digits)

/-- The decimal in the interval that has the given exponent and lies nearest to the value. -/
def hit? (tie : Tie) (interval : RoundingInterval) (exponent : Int) : Option Decimal :=
  let (lower, upper) := interval.neighbours exponent
  match interval.contains lower, interval.contains upper with
  | true, true => some (if interval.lowerIsNearer tie lower then lower else upper)
  | true, false => some lower
  | false, true => some upper
  | false, false => none

end RoundingInterval

/-- The shortest decimal that rounds to a finite nonzero number, by absolute value. -/
def shortest (tie : Tie) (x : Binary64) : Decimal :=
  let interval := RoundingInterval.of x
  let top := decimalMagnitude interval.value interval.denominator
  match (List.range 17).findSome? fun (length : Nat) => interval.hit? tie (top - length - 1) with
  | some decimal => decimal.stripZeros
  | none => ⟨0, 0⟩

end MovieCatalogue.Number

import MovieCatalogue.Number.Digits
import MovieCatalogue.Number.Binary64
import MovieCatalogue.Text.Cut

/-!
Contract: floating-point numbers from decimal texts.

Owns: two readings. `readDecimal?` reads the literal of a filter, correctly
rounded: a sign, digits with at most one point, an exponent, or one of the words
for infinity and NaN. `fromParts?` combines a significand and a power of ten by
rounding the significand first and then one product or quotient with a rounded
power of ten; JSON numbers are read so, and a number past the finite range does
not read.
Does not own: the grammar of JSON numbers.
-/

namespace MovieCatalogue.Number

/-- The number nearest to `digits * 10 ^ exponent`. -/
def ofDecimal (negative : Bool) (digits : Nat) (exponent : Int) : Binary64 :=
  if digits = 0 then .ofMagnitude negative 0
  else
    let magnitude := exponent + (Number.digits digits).length
    if 310 < magnitude then .ofMagnitude negative Binary64.infinityMagnitude
    else if magnitude < -330 then .ofMagnitude negative 0
    else .ofRatio negative (digits * 10 ^ exponent.toNat) (10 ^ (-exponent).toNat)

/-- Digits, an optional point and more digits; at least one digit in all. -/
def readMantissa? (cs : List Char) : Option (Nat × Int × List Char) :=
  let whole := cs.takeWhile isDigit
  let rest := cs.dropWhile isDigit
  let (fraction, rest) :=
    match rest with
    | '.' :: tail => (tail.takeWhile isDigit, tail.dropWhile isDigit)
    | _ => ([], rest)
  if whole.isEmpty && fraction.isEmpty then none
  else some (valueOf (whole ++ fraction), -(fraction.length : Int), rest)

/-- An exponent mark with a signed number, or nothing. -/
def readExponent? : List Char → Option Int
  | [] => some 0
  | mark :: cs =>
    if mark = 'e' ∨ mark = 'E' then
      let (negative, ds) :=
        match cs with
        | '-' :: tail => (true, tail)
        | '+' :: tail => (false, tail)
        | _ => (false, cs)
      if ds.isEmpty || !ds.all isDigit then none
      else some (if negative then -(valueOf ds : Int) else valueOf ds)
    else none

def readUnsignedDecimal? (negative : Bool) (cs : List Char) : Option Binary64 :=
  match String.ofList (cs.map Char.toLower) with
  | "inf" | "infinity" => some (.ofMagnitude negative Binary64.infinityMagnitude)
  | "nan" => some { Binary64.nan with negative := negative }
  | _ =>
    match readMantissa? cs with
    | none => none
    | some (digits, shift, rest) =>
      (readExponent? rest).map fun exponent => ofDecimal negative digits (exponent + shift)

/-- A decimal literal, correctly rounded. -/
def readDecimal? (s : String) : Option Binary64 :=
  match s.toList with
  | '-' :: cs => readUnsignedDecimal? true cs
  | '+' :: cs => readUnsignedDecimal? false cs
  | cs => readUnsignedDecimal? false cs

/-- The number nearest to a power of ten. -/
def powerOfTen (n : Nat) : Binary64 := .ofNat (10 ^ n)

/-- The largest power of ten below infinity. -/
def largestPower : Nat := 308

/--
A positive number scaled by a power of ten. Powers past the finite range are
applied in steps of the largest one; a product that is not finite is no number.
-/
def scaleByTen? (x : Binary64) (exponent : Int) : Option Binary64 :=
  if exponent.natAbs ≤ largestPower then
    if 0 ≤ exponent then (some (x.mul (powerOfTen exponent.toNat))).filter Binary64.isFinite
    else some (x.div (powerOfTen (-exponent).toNat))
  else if x.isZero then some x
  else if 0 ≤ exponent then none
  else scaleByTen? (x.div (powerOfTen largestPower)) (exponent + largestPower)
termination_by exponent.natAbs
decreasing_by
  simp only [largestPower] at *
  omega

/-- A number from its sign, its significand and a power of ten. -/
def fromParts? (negative : Bool) (significand : Nat) (exponent : Int) : Option Binary64 :=
  (scaleByTen? (.ofNat significand) exponent).map fun x => { x with negative := negative }

end MovieCatalogue.Number

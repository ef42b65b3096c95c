import MovieCatalogue.Json.Basic
import MovieCatalogue.Number.Integer
import MovieCatalogue.Number.Literal

/-!
Contract: numbers in JSON texts.

Owns: the grammar of a JSON number and its value. A number without point and
exponent is an integer if it fits a 64-bit word; minus zero and everything else
is a floating-point number. Its significand is a 64-bit word: the digits that
would overflow it are dropped, those before the point raising the power of ten.
Does not own: where a number ends in the text around it.
-/

namespace MovieCatalogue.Json

open MovieCatalogue.Number

structure Significand where
  value : Nat
  /-- The number of digits that did not fit. -/
  dropped : Nat
deriving DecidableEq, Repr

/-- Appends digits as long as the significand stays a 64-bit word. -/
def Significand.append (start : Nat) (ds : List Char) : Significand :=
  ds.foldl
    (fun acc d =>
      let next := acc.value * 10 + digitValue d
      if acc.dropped = 0 ∧ next ≤ maxWord then ⟨next, 0⟩ else ⟨acc.value, acc.dropped + 1⟩)
    ⟨start, 0⟩

/-- The parts of a written number. -/
structure NumberParts where
  negative : Bool
  whole : List Char
  fraction : Option (List Char)
  power : Option Int

/-- The exponent mark and its number, if the text goes on with one. -/
def readPower (cs : List Char) : Option (Option Int × List Char) :=
  match cs with
  | [] => some (none, [])
  | mark :: tail =>
    if mark = 'e' ∨ mark = 'E' then
      let (negative, rest) :=
        match tail with
        | '-' :: rest => (true, rest)
        | '+' :: rest => (false, rest)
        | _ => (false, tail)
      let ds := rest.takeWhile isDigit
      if ds.isEmpty then none
      else
        let n : Int := valueOf ds
        some (some (if negative then -n else n), rest.dropWhile isDigit)
    else some (none, cs)

/-- The parts of the number at the start of the text, and what follows it. -/
def readNumberParts (cs : List Char) : Option (NumberParts × List Char) :=
  let (negative, unsigned) :=
    match cs with
    | '-' :: tail => (true, tail)
    | _ => (false, cs)
  let whole := unsigned.takeWhile isDigit
  let rest := unsigned.dropWhile isDigit
  if whole.isEmpty || (whole.length > 1 && whole.head? == some '0') then none
  else
    let fraction : Option (Option (List Char) × List Char) :=
      match rest with
      | '.' :: tail =>
        let ds := tail.takeWhile isDigit
        if ds.isEmpty then none else some (some ds, tail.dropWhile isDigit)
      | _ => some (none, rest)
    match fraction with
    | none => none
    | some (fraction, rest) =>
      (readPower rest).map fun (power, rest) => (⟨negative, whole, fraction, power⟩, rest)

/-- A number that is not an integer, unless it is past the finite range. -/
def NumberParts.real? (parts : NumberParts) : Option Json :=
  let whole := Significand.append 0 parts.whole
  let ds := parts.fraction.getD []
  let all := Significand.append whole.value ds
  let shift : Int := whole.dropped - ((ds.length - all.dropped : Nat) : Int)
  (fromParts? parts.negative all.value (shift + parts.power.getD 0)).map .real

/-- The value of a written number, unless it is past the finite range. -/
def NumberParts.value? (parts : NumberParts) : Option Json :=
  if parts.fraction.isSome || parts.power.isSome then parts.real?
  else
    let n := valueOf parts.whole
    if n > maxWord then parts.real?
    else if !parts.negative then some (.int n)
    else if n = 0 || n > 2 ^ 63 then parts.real?
    else some (.int (-n))

end MovieCatalogue.Json

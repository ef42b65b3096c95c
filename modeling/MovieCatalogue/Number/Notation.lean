import MovieCatalogue.Number.Digits
import MovieCatalogue.Number.Shortest

/-!
Contract: decimal texts of floating-point numbers.

Owns: the layout of chosen digits. `Layout` lists the decisions of a notation;
`Layout.json` is the notation of every JSON text, `Layout.positional` writes no
exponent and is the notation of matching and of error texts. `oneDecimal` writes
whole numbers exactly with one decimal.
Does not own: the choice of digits; see `Number.Shortest`.
-/

namespace MovieCatalogue.Number

/-- The decisions of a decimal notation. -/
structure Layout where
  /-- Least and greatest decimal magnitude that is written without an exponent, if bounded. -/
  positionalRange : Option (Int × Int)
  /-- Whether whole numbers end in `.0`. -/
  keepsFraction : Bool
  /-- Which of two equally near shortest decimals is written. -/
  tie : Tie

namespace Layout

/-- JSON writes magnitudes from `10 ^ -5` up to below `10 ^ 16` without an exponent, and even
digits where two decimals are equally near. -/
def json : Layout := ⟨some (-4, 16), true, .toEven⟩

/-- No exponent and no forced fraction; the greater of two equally near decimals. -/
def positional : Layout := ⟨none, false, .upward⟩

/-- As `positional`, with a fraction also for whole numbers. -/
def positionalWithFraction : Layout := ⟨none, true, .upward⟩

/-- Digits with the decimal point where the exponent puts it. -/
def placePoint (layout : Layout) (ds : List Char) (exponent : Int) : List Char :=
  if 0 ≤ exponent then
    ds ++ List.replicate exponent.toNat '0' ++ (if layout.keepsFraction then ['.', '0'] else [])
  else
    let places := (-exponent).toNat
    if ds.length ≤ places then
      ['0', '.'] ++ List.replicate (places - ds.length) '0' ++ ds
    else
      ds.take (ds.length - places) ++ '.' :: ds.drop (ds.length - places)

/-- One leading digit, the others behind a point, and a signed exponent. -/
def scientific (ds : List Char) (magnitude : Int) : List Char :=
  let head := ds.take 1
  let tail := ds.drop 1
  let power := magnitude - 1
  head ++ (if tail.isEmpty then [] else '.' :: tail) ++
    ['e', if power < 0 then '-' else '+'] ++ Number.digits power.natAbs

def decimalChars (layout : Layout) (d : Decimal) : List Char :=
  let ds := Number.digits d.digits
  let magnitude := d.exponent + ds.length
  match layout.positionalRange with
  | none => layout.placePoint ds d.exponent
  | some (least, greatest) =>
    if least ≤ magnitude ∧ magnitude ≤ greatest then layout.placePoint ds d.exponent
    else scientific ds magnitude

def chars (layout : Layout) (x : Binary64) : List Char :=
  if x.isNaN then "NaN".toList
  else
    let size :=
      if !x.isFinite then "inf".toList
      else if x.isZero then layout.placePoint ['0'] 0
      else layout.decimalChars (shortest layout.tie x)
    if x.negative then '-' :: size else size

def text (layout : Layout) (x : Binary64) : String :=
  String.ofList (layout.chars x)

end Layout

/-- A whole number, exactly, with one decimal. -/
def oneDecimal (x : Binary64) : String :=
  let size := Number.digits (x.numerator / x.denominator) ++ ['.', '0']
  String.ofList (if x.negative then '-' :: size else size)

end MovieCatalogue.Number

import MovieCatalogue.Disk.Buffer
import MovieCatalogue.Number.Operators
import MovieCatalogue.Text.Grapheme

/-!
Contract: the pieces of a log line.

Owns: `Piece`, a text or a switch of the style in which a terminal shows what
follows; `Draft`, the pieces of a line as far as it can be written; and `Fit`, how
pieces are fitted into a width, which is counted in grapheme clusters. Texts that
follow each other are one text then, so a cluster does not go on behind a style,
whether styles are shown or not.
Does not own: which pieces a line has; see `Journal.LinePattern`.
-/

namespace MovieCatalogue.Journal

/-- A piece of a line. -/
inductive Piece where
  | text (cs : List Char)
  /-- The style of what follows, by its code. -/
  | style (code : String)
deriving DecidableEq, Repr

namespace Piece

/-- What is written for a piece, where styles are shown or where they are not. -/
def chars (coloured : Bool) : Piece → List Char
  | .text cs => cs
  | .style code => if coloured then '\x1b' :: '[' :: code.toList ++ ['m'] else []

def allChars (coloured : Bool) (pieces : List Piece) : List Char :=
  pieces.flatMap (chars coloured)

def width : Piece → Nat
  | .text cs => (Text.graphemes cs).length
  | .style _ => 0

def totalWidth (pieces : List Piece) : Nat :=
  (pieces.map width).sum

/-- The pieces with one text for texts that follow each other. -/
def joined : List Piece → List Piece
  | [] => []
  | .style code :: pieces => .style code :: joined pieces
  | .text cs :: pieces =>
    match joined pieces with
    | .text more :: others => .text (cs ++ more) :: others
    | others => .text cs :: others

/-- Joining texts changes nothing about what is written. -/
theorem allChars_joined (coloured : Bool) (pieces : List Piece) :
    allChars coloured (joined pieces) = allChars coloured pieces := by
  induction pieces with
  | nil => rfl
  | cons piece pieces inductionHypothesis =>
      cases piece with
      | style code => simpa [allChars, joined] using inductionHypothesis
      | text cs =>
          unfold joined
          split
          case h_1 more others found =>
            rw [found] at inductionHypothesis
            simp only [allChars, List.flatMap_cons, chars] at inductionHypothesis ⊢
            rw [List.append_assoc, inductionHypothesis]
          case h_2 others _ =>
            simpa [allChars] using inductionHypothesis

/-- The pieces up to a width. What follows the place where they are cut is left out. -/
def start (most : Nat) : List Piece → List Piece
  | [] => []
  | .style code :: pieces => .style code :: start most pieces
  | .text cs :: pieces =>
    let clusters := Text.graphemes cs
    if clusters.length ≤ most then .text cs :: start (most - clusters.length) pieces
    else [.text (clusters.take most).flatten]

/-- The pieces without texts of some width at their start. Styles stay. -/
def withoutStart (excess : Nat) : List Piece → List Piece
  | [] => []
  | .style code :: pieces => .style code :: withoutStart excess pieces
  | .text cs :: pieces =>
    let clusters := Text.graphemes cs
    if clusters.length ≤ excess then withoutStart (excess - clusters.length) pieces
    else .text (clusters.drop excess).flatten :: withoutStart 0 pieces

end Piece

/-! ## Drafts -/

/-- The pieces of a line, and whether they are all, or the rest cannot be written. -/
structure Draft where
  pieces : List Piece := []
  isWhole : Bool := true
deriving DecidableEq, Repr

namespace Draft

def ofText (cs : List Char) : Draft :=
  { pieces := [.text cs] }

/-- The draft in which nothing more can be written. -/
def broken : Draft :=
  { isWhole := false }

/-- A draft with another one behind it, if that can be written. -/
def followedBy (draft next : Draft) : Draft :=
  if draft.isWhole then ⟨draft.pieces ++ next.pieces, next.isWhole⟩ else draft

/-- The text of a draft, where styles are shown or where they are not. -/
def text (coloured : Bool) (draft : Draft) : String :=
  String.ofList (Piece.allChars coloured draft.pieces)

/-- The bytes of a piece, where styles are not shown. -/
def pieceBytes (piece : Piece) : ByteArray :=
  (String.ofList (piece.chars false)).toUTF8

/-- What of a draft reaches a file. Of one that is not whole, what is held back is lost. -/
def bytes (draft : Draft) : ByteArray :=
  if draft.isWhole then (draft.text false).toUTF8
  else (Disk.Buffer.ofPieces (draft.pieces.map pieceBytes)).written

end Draft

/-! ## Widths -/

/-- How pieces are fitted into a width. -/
structure Fit where
  fill : Char := ' '
  /-- Whether the pieces stand at the end of their width. -/
  toEnd : Bool := false
  /-- Whether the end of the pieces is kept when they are cut. -/
  keepsEnd : Bool := false
  least : Option Nat := none
  most : Option Nat := none
deriving DecidableEq, Repr

namespace Fit

/-- Whether no width is asked for. -/
def isFree (fit : Fit) : Bool :=
  fit.least.isNone && fit.most.isNone

/-- Pieces of some width padded to the least width. -/
def pad (fit : Fit) (width : Nat) (pieces : List Piece) : List Piece :=
  let padding := List.replicate (fit.least.getD 0 - width) (.text [fit.fill])
  if fit.toEnd then padding ++ pieces else pieces ++ padding

/-- The start of pieces of some width, or their end. -/
def cut (fit : Fit) (most width : Nat) (pieces : List Piece) : List Piece :=
  if fit.keepsEnd then Piece.withoutStart (width - most) pieces else Piece.start most pieces

/--
Pieces fitted into a width: they are cut if they are too long and padded if they
are too short. Where they are both, because the least width is the greater one,
they are written both ways.
-/
def apply (fit : Fit) (pieces : List Piece) : List Piece :=
  let pieces := Piece.joined pieces
  let width := Piece.totalWidth pieces
  let padded := if width < fit.least.getD 0 then fit.pad width pieces else []
  match fit.most.filter (· < width) with
  | some most => fit.cut most width pieces ++ padded
  | none => if width < fit.least.getD 0 then padded else pieces

/-- Pieces that are neither too short nor too long are written as they are. -/
theorem allChars_apply_of_fits (fit : Fit) (coloured : Bool) (pieces : List Piece)
    (long : fit.least.getD 0 ≤ Piece.totalWidth (Piece.joined pieces))
    (short : ∀ most, fit.most = some most → Piece.totalWidth (Piece.joined pieces) ≤ most) :
    Piece.allChars coloured (fit.apply pieces) = Piece.allChars coloured pieces := by
  have kept : fit.most.filter (· < Piece.totalWidth (Piece.joined pieces)) = none := by
    cases limit : fit.most with
    | none => rfl
    | some most => simpa [Option.filter] using short most limit
  simp [apply, kept, Nat.not_lt.mpr long, Piece.allChars_joined]

/-- A draft fitted into a width. One that is not whole is left out, unless it is not fitted. -/
def applyTo (fit : Fit) (draft : Draft) : Draft :=
  if fit.isFree then draft
  else if draft.isWhole then { pieces := fit.apply draft.pieces }
  else .broken

end Fit

end MovieCatalogue.Journal

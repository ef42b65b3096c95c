import MovieCatalogue.Number.Digits
import MovieCatalogue.Text.Cut

/-!
Contract: places in a YAML text.

Owns: `Position`, a line and a column, and its phrase in messages; `Place`, a
position with the text from there on; the steps from one place to the next; and
the marks between documents. Line breaks are line feeds and the separators of
lines and paragraphs; every other line break is a line feed by then.
Does not own: what stands at a place; see `Yaml.Scalar` and `Yaml.TokenStream`.
-/

namespace MovieCatalogue.Yaml

/-! ## Positions -/

/-- A position in a text: the lines before it, and the characters before it on its line. -/
structure Position where
  line : Nat := 0
  column : Nat := 0
deriving DecidableEq, Repr, Inhabited

def Position.text (position : Position) : String :=
  "line " ++ Number.natText (position.line + 1) ++ " column " ++ Number.natText (position.column + 1)

/-- Where something is, as it is said behind a message; about the start nothing is said. -/
def Position.phrase (position : Position) : String :=
  if position = {} then "" else " at " ++ position.text

/-! ## Kinds of characters -/

def isBreak (c : Char) : Bool :=
  c == '\n' || c == '\u2028' || c == '\u2029'

def isBlank (c : Char) : Bool :=
  c == ' ' || c == '\t'

def isGap (c : Char) : Bool :=
  isBlank c || isBreak c

def isLineEnd (cs : List Char) : Bool :=
  cs.head?.all isBreak

def isWordEnd (cs : List Char) : Bool :=
  cs.head?.all isGap

/-- A character of the name of a node, of a directive or of a tag. -/
def isNameChar (c : Char) : Bool :=
  c.isAlphanum || c == '_' || c == '-'

/-! ## Places -/

/-- A place in a text: the bytes before it, its position, and the text behind it. -/
structure Place where
  offset : Nat := 0
  position : Position := {}
  rest : List Char
deriving DecidableEq, Repr

namespace Place

/-- The characters before the place on its line. -/
def column (place : Place) : Nat :=
  place.position.column

/-- The place behind a character, with the text behind it. -/
def pass (place : Place) (c : Char) (rest : List Char) : Place where
  offset := place.offset + c.utf8Size
  position :=
    if isBreak c then ⟨place.position.line + 1, 0⟩
    else ⟨place.position.line, place.position.column + 1⟩
  rest := rest

def advance (place : Place) : Nat → Place
  | 0 => place
  | count + 1 =>
    match place.rest with
    | [] => place
    | c :: cs => (place.pass c cs).advance count

/-- The place behind the characters of some kind. -/
def skipWhile (place : Place) (kind : Char → Bool) : Place :=
  place.advance (place.rest.takeWhile kind).length

def skipLine (place : Place) : Place :=
  place.skipWhile fun c => !isBreak c

def isAt (place : Place) (c : Char) : Bool :=
  place.rest.head? == some c

/-- Whether a given text starts a line here and is a word of its own. -/
def isMark (place : Place) (mark : String) : Bool :=
  place.column == 0 && (Text.stripStart? mark.toList place.rest).any isWordEnd

/-- Whether a mark between documents stands here. -/
def isDocumentMark (place : Place) : Bool :=
  place.isMark "---" || place.isMark "..."

end Place

end MovieCatalogue.Yaml

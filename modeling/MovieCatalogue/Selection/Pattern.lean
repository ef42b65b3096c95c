import MovieCatalogue.Text.Blank
import MovieCatalogue.Text.Cut

/-!
Contract: text patterns.

Owns: patterns that look for a literal piece of text anywhere, at the start, at
the end or at the start of a word, what they match, and how they are written.
The occurrences of a word start are taken from left to right without overlap.
Does not own: which text of a row is searched.
-/

namespace MovieCatalogue.Selection

/-- Where the text that is looked for may stand. -/
inductive Anchor where
  | contains
  | start
  | finish
  | wordStart
deriving DecidableEq, Repr

/-- A literal piece of text and the places where it may stand. -/
structure Pattern where
  anchor : Anchor
  needle : String
deriving DecidableEq, Repr

namespace Pattern

/-- Whether the character before a word start is none or a blank. -/
def opensWord : Option Char → Bool
  | none => true
  | some c => Text.isBlank c

/-- Whether one of the occurrences of `needle` starts a word. Nothing occurs at every place. -/
def startsWord (needle text : List Char) : Bool :=
  match needle with
  | [] => true
  | first :: others => (Text.precedingChars first others none text).any opensWord

def isMatch (pattern : Pattern) (text : String) : Bool :=
  let needle := pattern.needle.toList
  match pattern.anchor with
  | .contains => Text.occursIn needle text.toList
  | .start => (Text.stripStart? needle text.toList).isSome
  | .finish => (Text.stripEnd? needle text.toList).isSome
  | .wordStart => startsWord needle text.toList

/-- The written form of one character inside a pattern. -/
def escapedChar (c : Char) : List Char :=
  if c = '\\' then ['\\', '\\']
  else if c = '%' then ['\\', '%']
  else if c = '_' then ['\\', '_']
  else if c = '\x27' then ['\x27', '\x27']
  else [c]

/-- A pattern between apostrophes, with percent signs where any text may stand. -/
def text (pattern : Pattern) : String :=
  let needle := pattern.needle.toList.flatMap escapedChar
  let (before, after) :=
    match pattern.anchor with
    | .contains => (['%'], ['%'])
    | .start => ([], ['%'])
    | .finish => (['%'], [])
    | .wordStart => (['%', ' '], ['%'])
  String.ofList (['\x27'] ++ before ++ needle ++ after ++ ['\x27'])

end Pattern

end MovieCatalogue.Selection

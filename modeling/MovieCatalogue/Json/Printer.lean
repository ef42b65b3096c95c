import MovieCatalogue.Json.Basic
import MovieCatalogue.Number.Notation

/-!
Contract: JSON texts.

Owns: the compact form, without blanks, and the pretty form, one item on a line
with two blanks of indentation for each level. Strings escape the quotation
mark, the backslash and the characters below U+0020, five of which have letters
of their own. Floating-point numbers always show a point or an exponent; one
that is not finite is written as `null`.
Does not own: reading; see `Json.Reader`.
-/

namespace MovieCatalogue.Json

open MovieCatalogue.Number

/-- Four lower-case hexadecimal digits. -/
def fourHexDigits (n : Nat) : List Char :=
  let ds := Nat.toDigits 16 n
  List.replicate (4 - ds.length) '0' ++ ds

/-- The written form of one character inside a string. -/
def escapedChar (c : Char) : List Char :=
  if c = '"' then ['\\', '"']
  else if c = '\\' then ['\\', '\\']
  else if c = '\x08' then ['\\', 'b']
  else if c = '\t' then ['\\', 't']
  else if c = '\n' then ['\\', 'n']
  else if c = '\x0c' then ['\\', 'f']
  else if c = '\r' then ['\\', 'r']
  else if c.toNat < 0x20 then ['\\', 'u'] ++ fourHexDigits c.toNat
  else [c]

def stringText (s : String) : String :=
  String.ofList ('"' :: s.toList.flatMap escapedChar ++ ['"'])

def realText (x : Binary64) : String :=
  if x.isFinite then Layout.json.text x else "null"

/-- The text of a value without parts. -/
def scalarText : Json → String
  | .bool true => "true"
  | .bool false => "false"
  | .int n => intText n
  | .real x => realText x
  | .string s => stringText s
  | _ => "null"

mutual

def compact : Json → String
  | .array items => "[" ++ compactItems items ++ "]"
  | .object members => "\x7b" ++ compactMembers members ++ "\x7d"
  | scalar => scalarText scalar

/-- Items in compact form, with commas between them. -/
def compactItems : List Json → String
  | [] => ""
  | [item] => compact item
  | item :: items => compact item ++ "," ++ compactItems items

/-- Members in compact form, with commas between them. -/
def compactMembers : List (String × Json) → String
  | [] => ""
  | [(name, value)] => stringText name ++ ":" ++ compact value
  | (name, value) :: members =>
    stringText name ++ ":" ++ compact value ++ "," ++ compactMembers members

end

/-- The start of a line at a level of indentation. -/
def newLine (level : Nat) : String :=
  String.ofList ('\n' :: List.replicate (2 * level) ' ')

mutual

def prettyAt (level : Nat) : Json → String
  | .array [] => "[]"
  | .array items => "[" ++ prettyItems (level + 1) items ++ newLine level ++ "]"
  | .object [] => "\x7b\x7d"
  | .object members => "\x7b" ++ prettyMembers (level + 1) members ++ newLine level ++ "\x7d"
  | scalar => scalarText scalar

/-- Items in pretty form, each on a line of its own. -/
def prettyItems (level : Nat) : List Json → String
  | [] => ""
  | [item] => newLine level ++ prettyAt level item
  | item :: items => newLine level ++ prettyAt level item ++ "," ++ prettyItems level items

/-- Members in pretty form, each on a line of its own. -/
def prettyMembers (level : Nat) : List (String × Json) → String
  | [] => ""
  | [(name, value)] => newLine level ++ stringText name ++ ": " ++ prettyAt level value
  | (name, value) :: members =>
    newLine level ++ stringText name ++ ": " ++ prettyAt level value ++ "," ++
      prettyMembers level members

end

def pretty (json : Json) : String :=
  prettyAt 0 json

end MovieCatalogue.Json

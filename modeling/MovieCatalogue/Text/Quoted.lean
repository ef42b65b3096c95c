import MovieCatalogue.Text.Hidden

/-!
Contract: a text between quotation marks, as error messages show it.

Owns: the escapes of a quoted text. The quotation mark and the backslash follow
a backslash; NUL, tab, line feed and carriage return have letters of their own;
every other hidden character is written by its code point; all else stands as
it is.
Does not own: the quoting of the JSON, TOML and query texts.
-/

namespace MovieCatalogue.Text

/-- A code point in lower-case hexadecimal digits. -/
def hexDigits (n : Nat) : List Char :=
  Nat.toDigits 16 n

/-- The written form of one character inside quotation marks. -/
def quotedChar (c : Char) : List Char :=
  if c = '\x00' then ['\\', '0']
  else if c = '\t' then ['\\', 't']
  else if c = '\n' then ['\\', 'n']
  else if c = '\r' then ['\\', 'r']
  else if c = '"' then ['\\', '"']
  else if c = '\\' then ['\\', '\\']
  else if isHidden c then ['\\', 'u', '\x7b'] ++ hexDigits c.toNat ++ ['\x7d']
  else [c]

/-- A text between quotation marks. -/
def quoted (s : String) : String :=
  String.ofList ('"' :: s.toList.flatMap quotedChar ++ ['"'])

end MovieCatalogue.Text

import MovieCatalogue.Json.Reader

/-!
Contract: the gaps, strings and keys of TOML texts.

Owns: the gaps between tokens, with comments; strings in their four forms; and
keys. A line ends in a line feed or in a carriage return and a line feed; a
carriage return on its own is a control character. A string on one line ends on
it; a string over several lines keeps its line breaks as written but for the one
behind its opening quotes, and may hold up to two quotation marks before its
closing ones.
Does not own: values without quotes; see `Toml.Scalar`.
-/

namespace MovieCatalogue.Toml

open MovieCatalogue.Json (Shorter hexValue?)

/-! ## Gaps -/

/-- A control character that no text may hold. The tab and the line break are none of them. -/
def isControl (c : Char) : Bool :=
  (c.toNat < 0x20 && c != '\t' && c != '\n') || c.toNat == 0x7F

def isBlank (c : Char) : Bool :=
  c == ' ' || c == '\t'

def skipBlanks (cs : List Char) : List Char :=
  cs.dropWhile isBlank

/-- Skips blanks, line breaks and comments; a comment holds no control character. -/
def skipGap (inComment : Bool) : List Char → Option (List Char)
  | [] => some []
  | '\r' :: '\n' :: cs => skipGap false cs
  | c :: cs =>
    if c = '\n' then skipGap false cs
    else if inComment then if isControl c then none else skipGap true cs
    else if c = '#' then skipGap true cs
    else if isBlank c then skipGap false cs
    else some (c :: cs)

/-- The text from the end of a comment on. -/
def endComment : List Char → Option (List Char)
  | [] => some []
  | '\r' :: '\n' :: cs => some ('\n' :: cs)
  | c :: cs =>
    if c = '\n' then some (c :: cs)
    else if isControl c then none
    else endComment cs

/-- The text behind the end of a line, which may hold a comment. -/
def endLine (cs : List Char) : Option (List Char) :=
  match skipBlanks cs with
  | [] => some []
  | '\n' :: rest => some rest
  | '\r' :: '\n' :: rest => some rest
  | '#' :: comment => endComment comment
  | _ => none

/-! ## Strings -/

def hexValue (cs : List Char) : Option Nat :=
  cs.foldlM (fun acc c => (hexValue? c).map fun d => acc * 16 + d) 0

/-- The character of a code point, unless it is half of a pair or too large. -/
def charOf? (n : Nat) : Option Char :=
  if n < 0xD800 ∨ (0xDFFF < n ∧ n < 0x110000) then some (Char.ofNat n) else none

/-- The character of an escape with `count` digits. -/
def readCodePoint? (count : Nat) (cs : List Char) :
    Option (Char × { rest : List Char // rest.length ≤ cs.length }) :=
  let ds := cs.take count
  if ds.length = count then
    ((hexValue ds).bind charOf?).map fun c =>
      (c, ⟨cs.drop count, by simp only [List.length_drop]; omega⟩)
  else none

/-- The character of an escape that is one letter or mark. -/
def plainEscape? : Char → Option Char
  | '"' => some '"'
  | '\\' => some '\\'
  | 'b' => some '\x08'
  | 'e' => some '\x1b'
  | 'f' => some '\x0c'
  | 'n' => some '\n'
  | 'r' => some '\r'
  | 't' => some '\t'
  | _ => none

/-- The number of digits behind the letter of a numeric escape. -/
def escapeDigits? : Char → Option Nat
  | 'x' => some 2
  | 'u' => some 4
  | 'U' => some 8
  | _ => none

/-- What follows a character is shorter. -/
theorem length_lt_length_cons (c : Char) (rest : List Char) : rest.length < (c :: rest).length := by
  simp

theorem length_lt_length_cons_of_le (c : Char) {tail rest : List Char}
    (le : tail.length ≤ rest.length) : tail.length < (c :: rest).length :=
  Nat.lt_of_le_of_lt le (length_lt_length_cons c rest)

/-- The character of an escape, read behind its backslash. -/
def readEscape? (cs : List Char) : Option (Char × Shorter cs) :=
  match cs with
  | [] => none
  | mark :: rest =>
    match plainEscape? mark with
    | some c => some (c, ⟨rest, length_lt_length_cons mark rest⟩)
    | none =>
      match escapeDigits? mark with
      | none => none
      | some count =>
        (readCodePoint? count rest).map fun (c, tail) =>
          (c, ⟨tail.1, length_lt_length_cons_of_le mark tail.2⟩)

/-- A string with escapes up to its quotation mark on the same line. -/
def readBasic (cs : List Char) : Option (List Char × List Char) :=
  match cs with
  | [] => none
  | '"' :: rest => some ([], rest)
  | '\\' :: rest =>
    match readEscape? rest with
    | none => none
    | some (c, tail) => (readBasic tail.1).map fun (text, after) => (c :: text, after)
  | c :: rest =>
    if c = '\n' ∨ isControl c then none
    else (readBasic rest).map fun (text, after) => (c :: text, after)
termination_by cs.length
decreasing_by
  · have := tail.2
    simp only [List.length_cons]
    omega
  · simp

/-- A string without escapes up to its apostrophe on the same line. -/
def readLiteral : List Char → Option (List Char × List Char)
  | [] => none
  | c :: rest =>
    if c = '\x27' then some ([], rest)
    else if c = '\n' ∨ isControl c then none
    else (readLiteral rest).map fun (text, after) => (c :: text, after)

/-- What follows three or more closing marks: those that belong to the text, and the rest. -/
def closeLong (mark : Char) (cs : List Char) : List Char × List Char :=
  match cs with
  | a :: b :: rest =>
    if a = mark ∧ b = mark then ([mark, mark], rest)
    else if a = mark then ([mark], b :: rest)
    else ([], cs)
  | [a] => if a = mark then ([mark], []) else ([], cs)
  | [] => ([], [])

/-- A string without escapes over several lines, up to three apostrophes. -/
def readLongLiteral : List Char → Option (List Char × List Char)
  | [] => none
  | '\x27' :: '\x27' :: '\x27' :: rest => some (closeLong '\x27' rest)
  | '\r' :: '\n' :: rest =>
    (readLongLiteral rest).map fun (text, after) => ('\r' :: '\n' :: text, after)
  | c :: rest =>
    if isControl c then none
    else (readLongLiteral rest).map fun (text, after) => (c :: text, after)

/-- The text behind blanks and line breaks. -/
def skipLines : List Char → List Char
  | [] => []
  | '\r' :: '\n' :: cs => skipLines cs
  | c :: cs => if isBlank c || c == '\n' then skipLines cs else c :: cs

theorem length_skipLines_le (cs : List Char) : (skipLines cs).length ≤ cs.length := by
  fun_induction skipLines cs with
  | case1 => simp
  | case2 cs inductionHypothesis => simp only [List.length_cons]; omega
  | case3 c cs _ _ inductionHypothesis => simp only [List.length_cons]; omega
  | case4 => simp

/-- The text behind a backslash at the end of a line: the next character that is no blank. -/
def joinLines? (cs : List Char) : Option { rest : List Char // rest.length ≤ cs.length } :=
  match skipBlanks cs with
  | '\n' :: _ | '\r' :: '\n' :: _ => some ⟨skipLines cs, length_skipLines_le cs⟩
  | _ => none

/-- A string with escapes over several lines, up to three quotation marks. -/
def readLongBasic (cs : List Char) : Option (List Char × List Char) :=
  match cs with
  | [] => none
  | '"' :: '"' :: '"' :: rest => some (closeLong '"' rest)
  | '\\' :: rest =>
    match joinLines? rest with
    | some next => readLongBasic next.1
    | none =>
      match readEscape? rest with
      | none => none
      | some (c, tail) => (readLongBasic tail.1).map fun (text, after) => (c :: text, after)
  | '\r' :: '\n' :: rest =>
    (readLongBasic rest).map fun (text, after) => ('\r' :: '\n' :: text, after)
  | c :: rest =>
    if isControl c then none
    else (readLongBasic rest).map fun (text, after) => (c :: text, after)
termination_by cs.length
decreasing_by
  · have := next.2
    simp only [List.length_cons]
    omega
  · have := tail.2
    simp only [List.length_cons]
    omega
  · simp only [List.length_cons]
    omega
  · simp

/-- The text behind a line break at its start. -/
def dropLineBreak : List Char → List Char
  | '\n' :: rest | '\r' :: '\n' :: rest => rest
  | cs => cs

/-- A string in any of the four forms. -/
def readString : List Char → Option (List Char × List Char)
  | '"' :: '"' :: '"' :: rest => readLongBasic (dropLineBreak rest)
  | '\x27' :: '\x27' :: '\x27' :: rest => readLongLiteral (dropLineBreak rest)
  | '"' :: rest => readBasic rest
  | '\x27' :: rest => readLiteral rest
  | _ => none

/-! ## Keys -/

/-- A character of a key without quotes. -/
def isKeyChar (c : Char) : Bool :=
  c.isAlphanum || c == '_' || c == '-'

def readKey (cs : List Char) : Option (String × List Char) :=
  match cs with
  | '"' :: rest => (readBasic rest).map fun (text, after) => (String.ofList text, after)
  | '\x27' :: rest => (readLiteral rest).map fun (text, after) => (String.ofList text, after)
  | _ =>
    let key := cs.takeWhile isKeyChar
    if key.isEmpty then none else some (String.ofList key, cs.dropWhile isKeyChar)

/-- Arrays and tables in braces may be nested this deep, and a key may have as many parts. -/
def deepest : Nat := 80

/-- At most `most` keys with dots between them, and the text behind the blanks that follow. -/
def readKeys (most : Nat) (cs : List Char) : Option (List String × List Char) :=
  match most with
  | 0 => none
  | most + 1 => do
    let (key, rest) ← readKey cs
    match skipBlanks rest with
    | '.' :: more =>
      let (keys, after) ← readKeys most (skipBlanks more)
      return (key :: keys, after)
    | other => return ([key], other)

end MovieCatalogue.Toml

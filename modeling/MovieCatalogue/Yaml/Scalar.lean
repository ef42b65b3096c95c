import MovieCatalogue.Toml.Text
import MovieCatalogue.Yaml.Fault

/-!
Contract: YAML scalars.

Owns: the four forms of scalars: plain, between apostrophes, between quotation
marks, and the blocks of whole lines. Where a plain or quoted scalar goes on in
the next line, the line break with the blanks around it is a space; of several
line breaks the first one is dropped.
Does not own: the nodes that scalars belong to; see `Yaml.Value`.
-/

namespace MovieCatalogue.Yaml

/-- What becomes of a line break and of those behind it when lines are joined. -/
def joinBreaks : List Char → List Char
  | [] => []
  | '\n' :: [] => [' ']
  | '\n' :: others => others
  | breaks => breaks

/-- What a run of blanks and line breaks within a scalar stands for. -/
def foldGap (gap : List Char) : List Char :=
  if gap.any isBreak then joinBreaks (gap.filter isBreak) else gap

/-! ## Scalars in quotes -/

/-- The character of an escape that is one letter or mark. -/
def plainEscape? : Char → Option Char
  | '0' => some '\x00'
  | 'a' => some '\x07'
  | 'b' => some '\x08'
  | 't' | '\t' => some '\t'
  | 'n' => some '\n'
  | 'v' => some '\x0b'
  | 'f' => some '\x0c'
  | 'r' => some '\r'
  | 'e' => some '\x1b'
  | ' ' => some ' '
  | '"' => some '"'
  | '/' => some '/'
  | '\\' => some '\\'
  | 'N' => some '\u0085'
  | '_' => some '\u00a0'
  | 'L' => some '\u2028'
  | 'P' => some '\u2029'
  | _ => none

/-- The character of an escape, read at its backslash; and the place behind it. -/
def readEscape (start : Position) (place : Place) : Except Fault (Char × Place) :=
  let fail (problem : Problem) (place : Place) : Except Fault (Char × Place) :=
    .error ⟨problem, place.position, some (.escape, start)⟩
  match (place.rest.drop 1).head? with
  | none => fail .unknownEscape place
  | some mark =>
    match plainEscape? mark, Toml.escapeDigits? mark with
    | some c, _ => .ok (c, place.advance 2)
    | none, none => fail .unknownEscape place
    | none, some count =>
      let place := place.advance 2
      let digits := place.rest.take count
      match Toml.hexValue digits with
      | none => fail .noHexDigits place
      | some n =>
        if digits.length < count then fail .noHexDigits place
        else
          match Toml.charOf? n with
          | some c => .ok (c, place.advance count)
          | none => fail .badCodePoint place

/-- A scalar in quotes of one kind, read behind the first one; and the place behind the last. -/
def readQuoted (fuel : Nat) (quote : Char) (start : Position) (place : Place) :
    Except Fault (List Char × Place) :=
  let fail (problem : Problem) : Except Fault (List Char × Place) :=
    .error ⟨problem, place.position, some (.quoted, start)⟩
  match fuel with
  | 0 => fail .endOfText
  | fuel + 1 =>
    let continueWith (text : List Char) (place : Place) : Except Fault (List Char × Place) := do
      let (more, after) ← readQuoted fuel quote start place
      return (text ++ more, after)
    if place.isDocumentMark then fail .documentMark
    else
      match place.rest with
      | [] => fail .endOfText
      | c :: cs =>
        if c = quote then
          if quote = '\x27' && cs.head? == some quote then continueWith [quote] (place.advance 2)
          else .ok ([], place.advance 1)
        else if isGap c then
          let gap := place.rest.takeWhile isGap
          continueWith (foldGap gap) (place.advance gap.length)
        else if c = '\\' && quote = '"' then
          if cs.head?.any isBreak then
            let place := place.advance 2
            let gap := place.rest.takeWhile isGap
            continueWith (gap.filter isBreak) (place.advance gap.length)
          else do
            let (c, place) ← readEscape start place
            continueWith [c] place
        else continueWith [c] (place.advance 1)

/-! ## Plain scalars -/

/-- The marks that stand between nodes in brackets and braces. -/
def flowMarks : List Char := [',', '[', ']', '\x7b', '\x7d']

/-- The marks that no plain scalar starts with. -/
def startMarks : List Char :=
  flowMarks ++ ['-', '?', ':', '#', '&', '*', '!', '|', '>', '\x27', '"', '%', '@', '\x60']

def startsPlain (flow : Bool) : List Char → Bool
  | [] => false
  | c :: cs =>
    if c = '-' then !cs.head?.any isBlank
    else if c = '?' ∨ c = ':' then !flow && !isWordEnd cs
    else !isGap c && !startMarks.contains c

/-- Whether a plain scalar is over where `cs` follows. -/
def endsPlain (flow : Bool) (cs : List Char) : Bool :=
  isWordEnd cs || (cs.head? == some ':' && isWordEnd (cs.drop 1)) ||
    (flow && cs.head?.any flowMarks.contains)

/-- A word of a plain scalar: the characters up to its end, of which there may be none. -/
def takeWord (flow : Bool) : List Char → List Char
  | [] => []
  | c :: cs => if endsPlain flow (c :: cs) then [] else c :: takeWord flow cs

/-- Whether a colon between brackets stands where none may. -/
def isStrangeColon : List Char → Bool
  | ':' :: c :: _ => c == '?' || flowMarks.contains c
  | _ => false

/-- The part of a word before a colon that may not stand there, if there is one. -/
def strangeColon? : List Char → List Char → Option (List Char)
  | [], _ => none
  | c :: word, rest =>
    if isStrangeColon ((c :: word) ++ rest) then some []
    else (strangeColon? word rest).map (c :: ·)

/--
A plain scalar, which goes on in lines that start no further left than `indent`,
or in any line between brackets; and the place behind it and the blanks that
follow. A gap that was read before stands in front of it if it goes on.
-/
def readPlain (fuel : Nat) (flow : Bool) (indent : Int) (start : Position) (gap : List Char)
    (place : Place) : Except Fault (List Char × List Char × Place) :=
  match fuel with
  | 0 => .ok ([], gap, place)
  | fuel + 1 =>
    let word := takeWord flow place.rest
    if place.isDocumentMark || place.isAt '#' || word.isEmpty then .ok ([], gap, place)
    else
      let after := place.advance word.length
      match if flow then strangeColon? word after.rest else none with
      | some before =>
        .error ⟨.strangeColon, (place.advance before.length).position, some (.plain, start)⟩
      | none =>
        let text := foldGap gap ++ word
        let gap := after.rest.takeWhile isGap
        let next := after.advance gap.length
        match tabBelow? false after gap with
        | some position => .error ⟨.tabBelowIndent, position, some (.plain, start)⟩
        | none =>
          if gap.isEmpty || (!flow && (next.column : Int) < indent) then .ok (text, gap, next)
          else do
            let (more, gap, place) ← readPlain fuel flow indent start gap next
            return (text ++ more, gap, place)
where
  /-- The position of a tab that stands on a line further left than `indent`. -/
  tabBelow? (fresh : Bool) (place : Place) : List Char → Option Position
    | [] => none
    | c :: cs =>
      if fresh && c == '\t' && (place.column : Int) < indent then some place.position
      else tabBelow? (fresh || isBreak c) (place.advance 1) cs

/-! ## Blocks of lines -/

/-- What becomes of the line breaks at the end of a block. -/
inductive Chomping where
  | strip
  | clip
  | keep
deriving DecidableEq, Repr

/-- What becomes of the end of a block, if a mark about it stands here. -/
def readChomping (place : Place) : Option (Chomping × Place) :=
  if place.isAt '-' then some (.strip, place.advance 1)
  else if place.isAt '+' then some (.keep, place.advance 1)
  else none

/-- How deep the lines of a block stand, if a digit about it stands here. -/
def readDepth (start : Position) (place : Place) : Except Fault (Option Nat × Place) :=
  match place.rest with
  | c :: _ =>
    if c = '0' then .error ⟨.zeroIndent, place.position, some (.block, start)⟩
    else if Number.isDigit c then .ok (some (Number.digitValue c), place.advance 1)
    else .ok (none, place)
  | [] => .ok (none, place)

/-- The marks behind the start of a block: what becomes of its end, and how deep it stands. -/
def readBlockMarks (start : Position) (place : Place) :
    Except Fault (Chomping × Option Nat × Place) :=
  match readChomping place with
  | some (chomping, place) => do
    let (depth, place) ← readDepth start place
    return (chomping, depth, place)
  | none => do
    let (depth, place) ← readDepth start place
    match depth, readChomping place with
    | some depth, some (chomping, place) => return (chomping, some depth, place)
    | _, _ => return (.clip, depth, place)

/-- The place behind blanks, a comment and the end of a line. -/
def endLine (activity : Activity) (start : Position) (place : Place) : Except Fault Place :=
  let place := place.skipWhile isBlank
  let place := if place.isAt '#' then place.skipLine else place
  if isLineEnd place.rest then .ok (place.advance 1)
  else .error ⟨.noCommentOrBreak, place.position, some (activity, start)⟩

/--
The line breaks before the next line with text, and the indentation, which is
that of the deepest line among them unless it is known; and the place behind.
-/
def readIndent (fuel : Nat) (least : Nat) (start : Position) (indent : Option Nat) (deepest : Nat)
    (place : Place) : Except Fault (List Char × Nat × Place) :=
  let found := indent.getD (max deepest least)
  match fuel with
  | 0 => .ok ([], found, place)
  | fuel + 1 =>
    let spaces := (place.rest.takeWhile (· == ' ')).length
    let place := place.advance ((indent.map fun indent => min spaces (indent - place.column)).getD spaces)
    let deepest := max deepest place.column
    let found := indent.getD (max deepest least)
    if place.isAt '\t' && indent.all (place.column < ·) then
      .error ⟨.tabInIndent, place.position, some (.block, start)⟩
    else
      match place.rest with
      | c :: _ =>
        if isBreak c then do
          let (breaks, found, place) ← readIndent fuel least start indent deepest (place.advance 1)
          return (c :: breaks, found, place)
        else .ok ([], found, place)
      | [] => .ok ([], found, place)

/-- A line of text in a block, with the line breaks that follow it. -/
structure BlockLine where
  text : List Char
  breaks : List Char
deriving DecidableEq, Repr

/-- The lines of text of a block, and the place behind it. -/
def readLines (fuel : Nat) (start : Position) (indent : Nat) (place : Place) :
    Except Fault (List BlockLine × Place) :=
  match fuel with
  | 0 => .ok ([], place)
  | fuel + 1 =>
    if place.column ≠ indent || place.rest.isEmpty then .ok ([], place)
    else do
      let text := place.rest.takeWhile fun c => !isBreak c
      let ending := place.advance text.length
      let ownBreak := ending.rest.take 1
      let (breaks, _, place) ← readIndent fuel 0 start (some indent) 0 (ending.advance 1)
      let (lines, place) ← readLines fuel start indent place
      return (⟨text, ownBreak ++ breaks⟩ :: lines, place)

def BlockLine.isDeeper (line : BlockLine) : Bool :=
  line.text.head?.any isBlank

/-- The text of lines with what stands between them; the line breaks of the last one count apart. -/
def joinLines (folded : Bool) : List BlockLine → List Char × List Char
  | [] => ([], [])
  | [line] => (line.text, line.breaks)
  | line :: next :: lines =>
    let (text, breaks) := joinLines folded (next :: lines)
    let gap :=
      if folded && !line.isDeeper && !next.isDeeper then joinBreaks line.breaks else line.breaks
    (line.text ++ gap ++ text, breaks)

/--
A block of lines, read behind its first mark, and the place behind it. Its lines
stand deeper than `above`, the indentation of what it belongs to.
-/
def readBlock (folded : Bool) (above : Int) (start : Position) (place : Place) :
    Except Fault (List Char × Place) := do
  let (chomping, depth, place) ← readBlockMarks start place
  let place ← endLine .block start place
  let fuel := place.rest.length + 1
  let least := max (above + 1).toNat 1
  let (leading, indent, place) ←
    readIndent fuel least start (depth.map fun depth => above.toNat + depth) 0 place
  let (lines, place) ← readLines fuel start indent place
  let (text, breaks) := joinLines folded lines
  let (own, more) :=
    if lines.isEmpty then ([], leading) else (breaks.take 1, breaks.drop 1)
  let ending :=
    match chomping with
    | .strip => []
    | .clip => own
    | .keep => own ++ more
  return ((if lines.isEmpty then [] else leading) ++ text ++ ending, place)

end MovieCatalogue.Yaml

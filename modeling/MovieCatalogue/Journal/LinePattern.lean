import MovieCatalogue.Calendar.Template
import MovieCatalogue.Journal.Lines
import MovieCatalogue.Journal.Piece
import MovieCatalogue.Text.Alphabetic

/-!
Contract: patterns of log lines.

Owns: `LinePattern`, what is written for a line: texts as they stand, and fields
between braces, which may be fitted into a width; and the reading of patterns. A
pattern is never refused: where it makes no sense, a note about that is written.
Only a moment by a text that is no template keeps the rest of a line from being
written. The marks of patterns stand for themselves where they are written twice
or follow a backslash. Highlighted parts have the style of the level.
Does not own: pieces and widths, see `Journal.Piece`; where lines are written, see
`Journal.Routing`.
-/

namespace MovieCatalogue.Journal

open MovieCatalogue.Number

/-! ## Patterns -/

/-- What a field between braces holds. -/
inductive LineField where
  /-- The point of time in the local time zone, or in universal time. -/
  | moment (template : Calendar.Template) (isLocal : Bool)
  | level
  | message
  | target
  | origin
  /-- The file of the place that writes the line. -/
  | file
  /-- The number of that place in its file. -/
  | number
  | thread
  | lineBreak
  /-- What nothing is known of. -/
  | unknown
  /-- A value of the caller's, which is never set, and what stands for it. -/
  | fallback (text : List Char)
deriving DecidableEq, Repr

inductive LinePattern.Part where
  | text (cs : List Char)
  | field (field : LineField) (fit : Fit)
  | group (parts : List LinePattern.Part) (fit : Fit)
  | highlight (parts : List LinePattern.Part) (fit : Fit)
  | fault (reason : String)
  /-- A moment by a text that is no template: no line with it can be written. -/
  | unwritable

/-- What is written for a line. -/
abbrev LinePattern := List LinePattern.Part

namespace LinePattern

/-! ## Writing -/

/-- The note about a part that makes no sense. -/
def faultNote (reason : String) : String :=
  "\x7bERROR: " ++ reason ++ "\x7d"

/-- What a field other than the message holds for a line. -/
def fieldText (present : Calendar.LocalMoment) (line : Line) : LineField → List Char
  | .moment template isLocal =>
    (if isLocal then present else ⟨present.moment, .universal⟩).written template
  | .level => line.level.name.toList
  | .message => line.text.toList
  | .target => line.target.toList
  | .origin => line.origin.toList
  | .file => line.site.file.toList
  | .number => (Number.natText line.site.number).toList
  | .thread => "main".toList
  | .lineBreak => ['\n']
  | .unknown => "???".toList
  | .fallback text => text

/-- The pieces of a field; a message has those that it is worded in. -/
def fieldPieces (present : Calendar.LocalMoment) (line : Line) : LineField → List Piece
  | .message => line.message.map fun words => .text words.toList
  | field => [.text (fieldText present line field)]

def levelStyle? : Level → Option String
  | .error => some "0;31;1"
  | .warn => some "0;33"
  | .info => some "0;32"
  | .trace => some "0;36"
  | .debug | .off => none

def styled (level : Level) (draft : Draft) : Draft :=
  match levelStyle? level with
  | some style =>
    ((Draft.mk [.style style] true).followedBy draft).followedBy { pieces := [.style "0"] }
  | none => draft

mutual

def partDraft (present : Calendar.LocalMoment) (line : Line) : Part → Draft
  | .text cs => .ofText cs
  | .field field fit => fit.applyTo { pieces := fieldPieces present line field }
  | .group parts fit => fit.applyTo (partsDraft present line parts)
  | .highlight parts fit => fit.applyTo (styled line.level (partsDraft present line parts))
  | .fault reason => .ofText (faultNote reason).toList
  | .unwritable => .broken

def partsDraft (present : Calendar.LocalMoment) (line : Line) : List Part → Draft
  | [] => {}
  | part :: parts => (partDraft present line part).followedBy (partsDraft present line parts)

end

def write (pattern : LinePattern) (present : Calendar.LocalMoment) (line : Line) : Draft :=
  partsDraft present line pattern

/-! ## Fields by their names -/

/-- The text of an argument that is taken as it is. -/
def literalText : List Part → List Char
  | [] => []
  | .text cs :: parts => cs ++ literalText parts
  | .fault reason :: parts => (faultNote reason).toList ++ literalText parts
  | _ :: parts => (faultNote "unexpected formatter").toList ++ literalText parts

/-- Whether the time zone that an argument names is the local one. -/
def zoneIsLocal : List Part → Except String Bool
  | .text ['u', 't', 'c'] :: _ => .ok false
  | .text ['l', 'o', 'c', 'a', 'l'] :: _ => .ok true
  | .text other :: _ => .error ("invalid timezone `" ++ String.ofList other ++ "`")
  | _ => .error "invalid timezone"

/-- The point of time, by the text of its template. -/
def writtenMoment (fit : Fit) (template : List Part) (isLocal : Bool) : Part :=
  match Calendar.Template.ofChars? (literalText template) with
  | some template => .field (.moment template isLocal) fit
  | none => .unwritable

/-- The point of time, by its template and its time zone. -/
def momentPart (fit : Fit) : List (List Part) → Part
  | [] => .field (.moment Calendar.TemplateItem.isoMoment true) fit
  | [template] => writtenMoment fit template true
  | [template, zone] =>
    match zoneIsLocal zone with
    | .ok isLocal => writtenMoment fit template isLocal
    | .error reason => .fault reason
  | _ => .fault "expected at most two arguments"

/-- The one text of an argument about a value of the caller's. -/
def callerText (what : String) : List Part → Except String (List Char)
  | .text cs :: _ => .ok cs
  | .fault reason :: _ => .error reason
  | _ => .error ("invalid " ++ what)

/-- What stands for a value of the caller's that is not set, by its arguments: a key and that. -/
def callerFallback : List (List Part) → Except String (List Char)
  | [] => .error "missing key"
  | [key] => (callerText "key" key).map fun _ => []
  | [key, fallback] => do
    let _ ← callerText "key" key
    callerText "default" fallback
  | _ => .error "expected at most two arguments"

def callerPart (fit : Fit) (arguments : List (List Part)) : Part :=
  match callerFallback arguments with
  | .ok text => .field (.fallback text) fit
  | .error reason => .fault ("MDC: " ++ reason)

/-- The field of a name that takes no arguments. -/
def plainField? : String → Option LineField
  | "l" | "level" => some .level
  | "m" | "message" => some .message
  | "t" | "target" => some .target
  | "M" | "module" => some .origin
  | "n" => some .lineBreak
  | "T" | "thread" => some .thread
  | "f" | "file" => some .file
  | "L" | "line" => some .number
  | "I" | "P" | "pid" | "i" | "tid" => some .unknown
  | _ => none

/-- The part that the one argument of a field makes. -/
def onlyArgument (make : List Part → Part) : List (List Part) → Part
  | [parts] => make parts
  | _ => .fault "expected exactly one argument"

/-- The part that a name with its arguments stands for. -/
def partOf (name : String) (arguments : List (List Part)) (fit : Fit) : Part :=
  match name with
  | "d" | "date" => momentPart fit arguments
  | "X" | "mdc" => callerPart fit arguments
  | "K" => .fault "The log_kv feature is required to parse the key_value argument"
  | "" | "D" | "debug" => onlyArgument (.group · fit) arguments
  | "h" | "highlight" => onlyArgument (.highlight · fit) arguments
  | "R" | "release" => onlyArgument (fun _ => .group [] fit) arguments
  | other =>
    match plainField? other with
    | some field => if arguments.isEmpty then .field field fit else .fault "unexpected arguments"
    | none => .fault ("unknown formatter `" ++ other ++ "`")

/-! ## Reading -/

def marks : List Char := ['\x7b', '\x7d', '(', ')', '\\']

/-- The name at the start of a field, which starts with a letter, and the rest. -/
def readName (cs : List Char) : List Char × List Char :=
  if cs.head?.any Text.isAlphabetic then cs.span Text.isAlphanumeric else ([], cs)

/-- A number at the start of the text, if there is one, and the rest. -/
def readNumber (cs : List Char) : Option Nat × List Char :=
  match cs.span isDigit with
  | ([], rest) => (none, rest)
  | (digits, rest) => (some (valueOf digits), rest)

/-- The fill character and the side on which a field stands, and the rest. -/
def readSide (fit : Fit) : List Char → Fit × List Char
  | fill :: '<' :: rest => ({ fit with fill := fill }, rest)
  | fill :: '>' :: rest => ({ fit with fill := fill, toEnd := true }, rest)
  | '<' :: rest => (fit, rest)
  | '>' :: rest => ({ fit with toEnd := true }, rest)
  | rest => (fit, rest)

/-- The width behind the colon of a field, and the rest. -/
def readFit : List Char → Fit × List Char
  | ':' :: cs =>
    let (fit, cs) := readSide {} cs
    let (fit, cs) :=
      match cs with
      | '-' :: cs => ({ fit with keepsEnd := true }, cs)
      | _ => (fit, cs)
    let (least, cs) := readNumber cs
    let (most, cs) :=
      match cs with
      | '.' :: cs => readNumber cs
      | _ => (none, cs)
    ({ fit with least := least, most := most }, cs)
  | cs => ({}, cs)

/-- What a mark stands for that is not written twice. -/
def loneMark (mark : Char) : String :=
  if mark = '\x7d' then "unmatched '\x7d'"
  else "unexpected '" ++ String.ofList [mark] ++ "'"

mutual

/-- The part at the start of a text that is not empty, and the rest. -/
def readPart (fuel : Nat) (first : Char) (cs : List Char) : Part × List Char :=
  match fuel with
  | 0 => (.text [], [])
  | fuel + 1 =>
    if cs.head? == some first && marks.contains first then (.text [first], cs.drop 1)
    else if first = '\\' && cs.head?.any marks.contains then (.text (cs.take 1), cs.drop 1)
    else if first = '\x7b' then
      let (name, rest) := readName cs
      let (arguments, rest) := readArguments fuel rest
      let (fit, rest) := readFit rest
      match rest with
      | '\x7d' :: rest => (partOf (String.ofList name) arguments fit, rest)
      | _ => (.fault "expected '\x7d'", [])
    else if marks.contains first then (.fault (loneMark first), cs)
    else
      let (text, rest) := cs.span fun c => !marks.contains c
      (.text (first :: text), rest)

/-- The arguments of a field, each between parentheses, and the rest. -/
def readArguments (fuel : Nat) (cs : List Char) : List (List Part) × List Char :=
  match fuel with
  | 0 => ([], [])
  | fuel + 1 =>
    match cs with
    | '(' :: rest =>
      let (argument, rest) := readArgument fuel rest
      let (arguments, rest) := readArguments fuel rest
      (argument :: arguments, rest)
    | _ => ([], cs)

/-- One argument up to its closing parenthesis, and the rest. -/
def readArgument (fuel : Nat) (cs : List Char) : List Part × List Char :=
  match fuel with
  | 0 => ([], [])
  | fuel + 1 =>
    match cs with
    | [] => ([], [])
    | ')' :: rest => ([], rest)
    | c :: rest =>
      let (part, rest) := readPart fuel c rest
      let (parts, rest) := readArgument fuel rest
      (part :: parts, rest)

end

def readParts (fuel : Nat) (cs : List Char) : LinePattern :=
  match fuel with
  | 0 => []
  | fuel + 1 =>
    match cs with
    | [] => []
    | c :: rest =>
      let (part, rest) := readPart fuel c rest
      part :: readParts fuel rest

def ofText (s : String) : LinePattern :=
  let cs := s.toList
  readParts (3 * cs.length + 3) cs

end LinePattern

end MovieCatalogue.Journal

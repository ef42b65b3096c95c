import MovieCatalogue.Text.Cut

/-!
Contract: the grammar of command lines.

Owns: options and words of a command line as data, their reading from left to
right, and the help text that follows from the same data. An option stands
before or behind the words; its value follows it or an equals sign. A value of
its own never starts with a hyphen, except for the lone hyphen; it is judged when
the next argument is read, and a command goes before it. Behind two hyphens
everything is a word.
Does not own: the options and commands of this program; see `Shell.Arguments`.
-/

namespace MovieCatalogue.Shell

structure Flag where
  /-- The name behind the two hyphens. -/
  name : String
  /-- The name of its value in the help text, if it takes one. -/
  value : Option String := none
  /-- Whether it may be given more than once. -/
  repeats : Bool := false
  /-- Which values it takes. -/
  accepts : String → Bool := fun _ => true
  help : String := ""

/-- A word that stands at a place of its own. -/
structure Slot where
  name : String
  required : Bool := true
  /-- Whether more than one word may stand there. -/
  repeats : Bool := false
  help : String := ""

/-- What a command line, or the rest of one, consists of. -/
structure Grammar where
  /-- The words that lead to it. -/
  path : List String
  about : String
  slots : List Slot := []
  flags : List Flag := []
  /-- Whether it tells its version. -/
  hasVersion : Bool := false
  /-- Whether it explains itself. -/
  hasHelp : Bool := true
  /-- The commands that may follow, with their descriptions. -/
  commands : List (String × String) := []

/-- Why a command line is refused. -/
inductive UsageFault where
  | unknownOption (text : String)
  | missingValue (option : String)
  | badValue (option value : String)
  | unexpectedValue (option : String)
  | repeatedOption (option : String)
  | unexpectedWord (word : String)
  | missingWord (name : String)
  | missingCommand
  | unknownCommand (word : String)
deriving DecidableEq, Repr

def UsageFault.message : UsageFault → String
  | .unknownOption text => "unexpected argument '" ++ text ++ "' found"
  | .missingValue option => "a value is required for '--" ++ option ++ "' but none was supplied"
  | .badValue option value => "invalid value '" ++ value ++ "' for '--" ++ option ++ "'"
  | .unexpectedValue option => "unexpected value for '--" ++ option ++ "' found"
  | .repeatedOption option =>
    "the argument '--" ++ option ++ "' cannot be used multiple times"
  | .unexpectedWord word => "unexpected argument '" ++ word ++ "' found"
  | .missingWord name => "the required argument <" ++ name ++ "> was not provided"
  | .missingCommand => "a subcommand is required but one was not provided"
  | .unknownCommand word => "unrecognized subcommand '" ++ word ++ "'"

inductive Halt where
  | help (grammar : Grammar)
  | version
  | fault (cause : UsageFault)

/-- What a command line holds: words in order, and for each option its values in order. -/
structure Parsed where
  words : List String := []
  options : List (String × String) := []
deriving DecidableEq, Repr

namespace Parsed

def has (parsed : Parsed) (name : String) : Bool :=
  parsed.options.any fun entry => entry.1 == name

def values (parsed : Parsed) (name : String) : List String :=
  (parsed.options.filter fun entry => entry.1 == name).map Prod.snd

/-- The value of an option that is given at most once. -/
def value? (parsed : Parsed) (name : String) : Option String :=
  (parsed.values name).head?

end Parsed

/-- One argument by its first characters. -/
inductive Lexeme where
  | endOfOptions
  | long (name : String) (attached : Option String)
  | short (mark : Char)
  | word (text : String)
deriving DecidableEq, Repr

def Lexeme.ofText (text : String) : Lexeme :=
  match text.toList with
  | ['-', '-'] => .endOfOptions
  | '-' :: '-' :: rest =>
    match Text.cutAt? ['='] rest with
    | some (name, value) => .long (String.ofList name) (some (String.ofList value))
    | none => .long (String.ofList rest) none
  | '-' :: mark :: _ => .short mark
  | _ => .word text

/-- Whether an argument stands as the value of the option before it. -/
def Lexeme.isValue : Lexeme → Bool
  | .word _ => true
  | _ => false

namespace Grammar

def flag? (grammar : Grammar) (name : String) : Option Flag :=
  grammar.flags.find? fun flag => flag.name == name

def addOption (parsed : Parsed) (flag : Flag) (value : String) : Except Halt Parsed :=
  if !flag.accepts value then .error (.fault (.badValue flag.name value))
  else if !flag.repeats && parsed.has flag.name then
    .error (.fault (.repeatedOption flag.name))
  else .ok { parsed with options := parsed.options ++ [(flag.name, value)] }

def addWord (grammar : Grammar) (parsed : Parsed) (word : String) : Except Halt Parsed :=
  if parsed.words.length < grammar.slots.length then
    .ok { parsed with words := parsed.words ++ [word] }
  else .error (.fault (.unexpectedWord word))

/-- What an option without value asks for. -/
def readSwitch (grammar : Grammar) (parsed : Parsed) (name : String) : Except Halt Parsed :=
  if name = "help" then .error (.help grammar)
  else if grammar.hasVersion && name == "version" then .error .version
  else
    match grammar.flag? name with
    | some flag => addOption parsed flag ""
    | none => .error (.fault (.unknownOption ("--" ++ name)))

/-- What a one-letter option asks for. -/
def readShort {α : Type} (grammar : Grammar) (mark : Char) : Except Halt α :=
  if mark = 'h' then .error (.help grammar)
  else if grammar.hasVersion && mark == 'V' then .error .version
  else .error (.fault (.unknownOption (String.ofList ['-', mark])))

def takesValue (grammar : Grammar) (name : String) : Bool :=
  match grammar.flag? name with
  | some flag => flag.value.isSome
  | none => false

/-- Records an option with the value behind its equals sign. -/
def readAttached (grammar : Grammar) (parsed : Parsed) (name value : String) :
    Except Halt Parsed :=
  match grammar.flag? name with
  | some flag =>
    if flag.value.isSome then addOption parsed flag value
    else .error (.fault (.unexpectedValue name))
  | none =>
    if name = "help" ∨ (grammar.hasVersion ∧ name = "version") then
      .error (.fault (.unexpectedValue name))
    else .error (.fault (.unknownOption ("--" ++ name)))

/-- The option of a name with the value that follows it. -/
def valued (grammar : Grammar) (name value : String) : Except Halt (Flag × String) :=
  match grammar.flag? name with
  | some flag =>
    if (Lexeme.ofText value).isValue then .ok (flag, value)
    else .error (.fault (.missingValue name))
  | none => .error (.fault (.missingValue name))

/-- What was read of a command line. -/
structure Scan where
  parsed : Parsed := {}
  /-- The last option, if its value has not been judged yet. -/
  pending : Option (Flag × String) := none
  /-- The word at which a command starts, and the arguments behind it. -/
  command : Option (String × List String) := none

/-- What was read, with the last option judged. -/
def Scan.settle (scan : Scan) : Except Halt Parsed :=
  match scan.pending with
  | some (flag, value) => addOption scan.parsed flag value
  | none => .ok scan.parsed

/-- Reads arguments up to the end, or up to the first word where a command may follow. -/
def scan (grammar : Grammar) (read : Scan) : List String → Except Halt Scan
  | [] => .ok read
  | argument :: rest =>
    match Lexeme.ofText argument with
    | .endOfOptions => do
      return { parsed := ← rest.foldlM (addWord grammar) (← read.settle) }
    | .long name (some value) => do
      scan grammar { parsed := ← readAttached grammar (← read.settle) name value } rest
    | .long name none =>
      if grammar.takesValue name then
        match rest with
        | [] => .error (.fault (.missingValue name))
        | value :: others => do
          let parsed ← read.settle
          scan grammar { parsed := parsed, pending := some (← grammar.valued name value) } others
      else do
        scan grammar { parsed := ← readSwitch grammar (← read.settle) name } rest
    | .short mark => do
      let _ ← read.settle
      grammar.readShort mark
    | .word text =>
      if grammar.commands.isEmpty then do
        scan grammar { parsed := ← addWord grammar (← read.settle) text } rest
      else .ok { read with command := some (text, rest) }

/-- The first required place that holds no word. -/
def missingSlot? (grammar : Grammar) (parsed : Parsed) : Option Slot :=
  (grammar.slots.drop parsed.words.length).find? Slot.required

/-- Reads a command line without commands. -/
def read (grammar : Grammar) (arguments : List String) : Except Halt Parsed := do
  let parsed ← (← grammar.scan {} arguments).settle
  match grammar.missingSlot? parsed with
  | some slot => throw (.fault (.missingWord slot.name))
  | none => return parsed

/-! ## Help -/

def slotLabel (slot : Slot) : String :=
  (if slot.required then "<" ++ slot.name ++ ">" else "[" ++ slot.name ++ "]") ++
    if slot.repeats then "..." else ""

def flagLabel (flag : Flag) : String :=
  "    --" ++ flag.name ++
    match flag.value with
    | some value => " <" ++ value ++ ">"
    | none => ""

/-- Labels with their descriptions, which all start in the same column. -/
def helpRows (rows : List (String × String)) : String :=
  let width := (rows.map fun row => row.1.length).foldl max 0
  String.join (rows.map fun row =>
    "  " ++ row.1 ++ String.ofList (List.replicate (width + 2 - row.1.length) ' ') ++
      row.2 ++ "\n")

/-- A part of the help text, left out if it has no rows. -/
def helpSection (title : String) (rows : List (String × String)) : String :=
  if rows.isEmpty then "" else "\n" ++ title ++ ":\n" ++ helpRows rows

/-- The line that shows how a command line is written. -/
def usage (grammar : Grammar) : String :=
  Text.join " "
    (grammar.path ++
      (if grammar.flags.isEmpty then [] else ["[OPTIONS]"]) ++
      grammar.slots.map slotLabel ++
      (if grammar.commands.isEmpty then [] else ["<COMMAND>"]))

def standardRows (grammar : Grammar) : List (String × String) :=
  (if grammar.hasHelp then [("-h, --help", "Print help")] else []) ++
    (if grammar.hasVersion then [("-V, --version", "Print version")] else [])

def helpText (grammar : Grammar) : String :=
  grammar.about ++ "\n\nUsage: " ++ grammar.usage ++ "\n" ++
    helpSection "Commands" grammar.commands ++
    helpSection "Arguments" (grammar.slots.map fun slot => (slotLabel slot, slot.help)) ++
    helpSection "Options"
      (grammar.flags.map (fun flag => (flagLabel flag, flag.help)) ++ grammar.standardRows)

end Grammar

end MovieCatalogue.Shell

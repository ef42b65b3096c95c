import MovieCatalogue.Number.Integer
import MovieCatalogue.Shell.Command
import MovieCatalogue.Shell.Grammar

/-!
Contract: the command line of the program.

Owns: the options and commands of the program as a grammar, and `Invocation`,
what a command line asks for.
Does not own: carrying it out; see `Shell.Program`.
-/

namespace MovieCatalogue.Shell

/-- Where the payload of a command comes from. -/
inductive PayloadSource where
  | given (text : String)
  | input
  | missing
deriving DecidableEq, Repr

/-- What a command line asks for. -/
structure Invocation where
  configFile : Option String := none
  dataPath : Option String := none
  logLevel : Option String := none
  recordRequests : Bool := false
  mode : OutputMode := .human
  command : Command PayloadSource

def programName : String := "cinelite"

def versionText : String := programName ++ " 0.1.0\n"

/-- Whether a text is an integer that a parameter takes. -/
def isInteger (text : String) : Bool :=
  (Number.readInt64? text).isSome

/-- The options of lists; two of them are described differently where a section lists. -/
def listFlags (help : List String) : List Flag :=
  let described (index : Nat) : String := help.getD index ""
  [{ name := "page", value := some "PAGE", accepts := isInteger, help := described 0 },
   { name := "limit", value := some "LIMIT", accepts := isInteger, help := described 1 },
   { name := "sort", value := some "SORT", repeats := true, help := described 2 },
   { name := "filter", value := some "FILTER", repeats := true, help := described 3 }]

def payloadSlot : Slot :=
  { name := "JSON", required := false, help := "JSON payload; omit with --stdin" }

/-- The option that takes the payload from the input. -/
def inputFlag : Flag :=
  { name := "stdin", help := "Read the JSON payload from stdin" }

def commandGrammar (name about : String) (slots : List Slot) (flags : List Flag) : Grammar :=
  { path := [programName, name], about := about, slots := slots, flags := flags }

def commandGrammars : List (String × Grammar) :=
  let grammars : List (String × String × List Slot × List Flag) :=
    [("list", "List a resource with filters, sorting and pagination",
      [{ name := "RESOURCE", help := "Resource route name (movies, ratings, tags, ...)" }],
      listFlags
        ["1-based page number", "Max number of items per page",
         "Sort term field.\x7basc|desc\x7d; repeatable",
         "Filter term operation(field, value); repeatable"]),
     ("get", "Read one record by id (compound ids join key fields with _)",
      [{ name := "RESOURCE" }, { name := "ID" }], []),
     ("create", "Create a record from a JSON object",
      [{ name := "RESOURCE" }, payloadSlot], [inputFlag]),
     ("update", "Update fields of a record from a JSON object",
      [{ name := "RESOURCE" }, { name := "ID" }, payloadSlot], [inputFlag]),
     ("delete", "Delete a record by id", [{ name := "RESOURCE" }, { name := "ID" }], []),
     ("browse-section", "List movies through a section's stored filters",
      [{ name := "ID" }],
      listFlags
        ["", "", "Sort term replacing the section's own; repeatable",
         "Filter term added to the section's own; repeatable"]),
     ("operators", "List the available filter operators", [], []),
     ("docs", "Print parameter and endpoint documentation", [], []),
     ("metrics", "Print query/write counters", [], []),
     ("init", "Create an empty data snapshot if missing", [], [])]
  grammars.map fun (name, about, slots, flags) => (name, commandGrammar name about slots flags)

def helpGrammar : Grammar :=
  { path := [programName, "help"]
    about := "Print this message or the help of the given subcommand(s)"
    hasHelp := false
    slots :=
      [{ name := "COMMAND", required := false, repeats := true
         help := "Print help for the subcommand(s)" }] }

/-- The options before the command. -/
def programGrammar : Grammar :=
  { path := [programName]
    about := "cinelite movie catalogue CLI"
    hasVersion := true
    flags :=
      [{ name := "config", value := some "CONFIG", accepts := fun text => !text.isEmpty
         help := "Path to a config file (TOML). If omitted, CINELITE_CONFIG or " ++
          "./cinelite.toml is used." },
       { name := "data", value := some "DATA", accepts := fun text => !text.isEmpty
         help := "Override the data snapshot path. Takes precedence over config/env." },
       { name := "log-level", value := some "LOG_LEVEL"
         help := "Log level: off|error|warn|info|debug|trace" },
       { name := "record-requests"
         help := "Record every dispatched request into the request table" },
       { name := "json", help := "Print compact JSON instead of pretty output" }]
    commands :=
      commandGrammars.map (fun entry => (entry.1, entry.2.about)) ++
        [("help", helpGrammar.about)] }

def commandGrammar? (name : String) : Option Grammar :=
  Fields.get? name commandGrammars

/-- The help that the words behind `help` ask for. -/
def helpFor : List String → Halt
  | [] => .help programGrammar
  | [name] =>
    if name = "help" then .help helpGrammar
    else
      match commandGrammar? name with
      | some grammar => .help grammar
      | none => .fault (.unknownCommand name)
  | name :: other :: _ =>
    if (commandGrammar? name).isSome ∨ name = "help" then .fault (.unknownCommand other)
    else .fault (.unknownCommand name)

def Parsed.listOptions (parsed : Parsed) : ListOptions where
  page := (parsed.value? "page").bind Number.readInt64?
  limit := (parsed.value? "limit").bind Number.readInt64?
  sort := parsed.values "sort"
  filter := parsed.values "filter"

/-- The source of a payload; the input goes before a payload that is given. -/
def Parsed.payload (parsed : Parsed) (given : Option String) : PayloadSource :=
  if parsed.has "stdin" then .input
  else
    match given with
    | some text => .given text
    | none => .missing

/-- The command of a name and the words behind it. -/
def Parsed.command? (name : String) (parsed : Parsed) : Option (Command PayloadSource) :=
  match name, parsed.words with
  | "list", [resource] => some (.list resource parsed.listOptions)
  | "get", [resource, id] => some (.get resource id)
  | "create", resource :: given => some (.create resource (parsed.payload given.head?))
  | "update", resource :: id :: given => some (.update resource id (parsed.payload given.head?))
  | "delete", [resource, id] => some (.delete resource id)
  | "browse-section", [id] => some (.browseSection id parsed.listOptions)
  | "operators", _ => some .operators
  | "docs", _ => some .docs
  | "metrics", _ => some .metrics
  | "init", _ => some .init
  | _, _ => none

/-- Reads a command line. What the command has to say goes before a fault of the last option. -/
def Invocation.ofArguments (arguments : List String) : Except Halt Invocation := do
  let scan ← programGrammar.scan {} arguments
  match scan.command with
  | none => throw (.fault .missingCommand)
  | some (name, rest) =>
    if name = "help" then throw (helpFor rest)
    match commandGrammar? name with
    | none => throw (.fault (.unknownCommand name))
    | some grammar =>
      let inner ← grammar.read rest
      let parsed ← scan.settle
      match inner.command? name with
      | none => throw (.fault (.unknownCommand name))
      | some command =>
        return {
          configFile := parsed.value? "config"
          dataPath := parsed.value? "data"
          logLevel := parsed.value? "log-level"
          recordRequests := parsed.has "record-requests"
          mode := if parsed.has "json" then .json else .human
          command := command }

end MovieCatalogue.Shell

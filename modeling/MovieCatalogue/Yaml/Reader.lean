import MovieCatalogue.Yaml.Event
import MovieCatalogue.Yaml.Value

/-!
Contract: YAML documents from texts.

Owns: the nodes that events make up, with the labels of those that have names; and
`Yaml.Document`, the first document of a text. A name stands for the node that it
was given to last, and that node need not be complete yet. What a fault in the
text leaves out of the document is broken.
Does not own: which events a text tells, see `Yaml.Event`; what a document is
about, see `Yaml.Spot`.
-/

namespace MovieCatalogue.Yaml

/-! ## Labels -/

/-- The nodes with names, as far as they are known. -/
structure Labels where
  /-- The labels that names have now. -/
  names : Fields Nat := []
  /-- The labels in the order in which they were given, the last one first. -/
  given : List Nat := []
  /-- The nodes that are complete, by how many labels were given before them. -/
  complete : List (Nat × Yaml) := []

namespace Labels

/--
The labels with a name more, and the number of the node that it is for. The label
is the number of other names, so a name that is given again may share a label.
-/
def give (labels : Labels) (name : String) : Nat × Labels :=
  let label := labels.names.length
  (labels.given.length,
    { labels with names := labels.names.put name label, given := label :: labels.given })

/-- The labels when a node with a number is complete. -/
def finish (labels : Labels) (number : Option Nat) (node : Yaml) : Labels :=
  match number with
  | some number => { labels with complete := (number, node) :: labels.complete }
  | none => labels

/-- The node that a label was given to last. -/
def node? (labels : Labels) (label : Nat) : Option Yaml := do
  let behind ← labels.given.findIdx? (· == label)
  let number := labels.given.length - 1 - behind
  let (_, node) ← labels.complete.find? fun entry => entry.1 == number
  return node

end Labels

/-! ## Nodes from events -/

/-- A sequence or a mapping that is not over, with what it holds so far, the last first. -/
inductive Partial where
  | sequence (start : Position) (tag : Option Tag) (items : List Yaml)
  | mapping (start : Position) (tag : Option Tag) (members : List (Yaml × Yaml))
    (key : Option Yaml)

/-- The nodes so far: the one that is complete, the ones that are not, and those with names. -/
structure Nodes where
  done : Option Yaml := none
  /-- What is not over, the innermost first, each with its number if it has a label. -/
  partials : List (Option Nat × Partial) := []
  labels : Labels := {}
  fault : Option Fault := none

namespace Partial

/-- What is not over with one node more. -/
def add (node : Yaml) : Partial → Partial
  | .sequence start tag items => .sequence start tag (node :: items)
  | .mapping start tag members none => .mapping start tag members (some node)
  | .mapping start tag members (some key) => .mapping start tag ((key, node) :: members) none

/-- The node that something is when it is over; a key without a value has a broken one. -/
def close (fault : Fault) : Partial → Yaml
  | .sequence start tag items => .sequence start tag items.reverse
  | .mapping start tag members none => .mapping start tag members.reverse
  | .mapping start tag members (some key) =>
    .mapping start tag ((key, .broken fault) :: members).reverse

end Partial

namespace Nodes

/-- Adds a complete node to the innermost one that is not over. -/
def add (nodes : Nodes) (node : Yaml) : Nodes :=
  match nodes.partials with
  | [] => { nodes with done := some node }
  | (number, innermost) :: others => { nodes with partials := (number, innermost.add node) :: others }

/-- The number of a node that starts, if it has a name. -/
def enter (nodes : Nodes) (name : Option String) : Option Nat × Nodes :=
  match name with
  | some name =>
    let (number, labels) := nodes.labels.give name
    (some number, { nodes with labels := labels })
  | none => (none, nodes)

/-- Adds a complete node, under its number if it has one. -/
def finish (nodes : Nodes) (number : Option Nat) (node : Yaml) : Nodes :=
  { nodes with labels := nodes.labels.finish number node }.add node

def openWith (nodes : Nodes) (name : Option String) (fresh : Partial) : Nodes :=
  let (number, nodes) := nodes.enter name
  { nodes with partials := (number, fresh) :: nodes.partials }

/-- Closes the innermost node that is not over. -/
def close (nodes : Nodes) (fault : Fault) : Nodes :=
  match nodes.partials with
  | [] => nodes
  | (number, innermost) :: others =>
    { nodes with partials := others }.finish number (innermost.close fault)

/-- What an event adds; nothing is added behind a fault. -/
def step (nodes : Nodes) (event : Event) : Nodes :=
  if nodes.fault.isSome then nodes
  else
    match event with
    | .alias start name =>
      match nodes.labels.names.get? name with
      | some label => nodes.add (.alias start label)
      | none => { nodes with fault := some { problem := .unknownName, position := start } }
    | .scalar start properties style text =>
      let (number, nodes) := nodes.enter properties.name
      nodes.finish number (.scalar start properties.tag style text)
    | .sequenceStart start properties =>
      nodes.openWith properties.name (.sequence start properties.tag [])
    | .mappingStart start properties =>
      nodes.openWith properties.name (.mapping start properties.tag [] none)
    | .collectionEnd => nodes.close {problem := .endOfText}

/-- All nodes complete, where what is not over breaks off. -/
def breakOff (nodes : Nodes) (fault : Fault) : Nodes :=
  if nodes.partials.isEmpty && nodes.done.isSome then nodes
  else nodes.partials.foldl (fun nodes _ => nodes.close fault) (nodes.add (.broken fault))

end Nodes

/-! ## Documents -/

/-- The first document of a text. -/
structure Document where
  root : Yaml
  labels : Labels := {}
  /-- The number of its events. -/
  length : Nat := 0
  /-- Why the document could not be read to its end. -/
  fault : Option Fault := none
  /-- Whether it is the only one. -/
  single : Bool := true

/-- The text with line feeds for all line breaks but the separators of lines and paragraphs. -/
def unifyBreaks : List Char → List Char
  | '\r' :: '\n' :: cs => '\n' :: unifyBreaks cs
  | '\r' :: cs | '\u0085' :: cs => '\n' :: unifyBreaks cs
  | c :: cs => c :: unifyBreaks cs
  | [] => []

/-- Whether a text may hold a character. -/
def isAllowed (c : Char) : Bool :=
  c == '\t' || c == '\n' || c == '\r' || (' ' ≤ c && c ≤ '~') || c == '\u0085' ||
    ('\u00a0' ≤ c && c != '\ufffe' && c != '\uffff')

/-- The fault of a character that no text may hold, given the number of bytes before. -/
def forbidden? (offset : Nat) : List Char → Option Fault
  | [] => none
  | c :: cs =>
    if isAllowed c then forbidden? (offset + c.utf8Size) cs
    else some { problem := .controlCharacter offset }

/-- The number of events up to the first one that names no node before it. -/
def knownEvents (events : List Event) : Nat :=
  go {} 0 events
where
  /-- Counts on from some events with the nodes that they make up. -/
  go (nodes : Nodes) (count : Nat) : List Event → Nat
    | [] => count
    | event :: events =>
      let nodes := nodes.step event
      if nodes.fault.isSome then count else go nodes (count + 1) events

/-- The document that events make up, given how their reading ended. -/
def Document.ofEvents (events : List Event) (outcome : Except Fault Bool) : Document :=
  let nodes := events.foldl Nodes.step {}
  let fault :=
    match nodes.fault, outcome with
    | some fault, _ => some fault
    | none, .error fault => some fault
    | none, .ok _ => none
  match fault, outcome with
  | none, .ok false => { root := blank {} }
  | _, _ =>
    let reason : Fault := fault.getD { problem := .endOfText }
    let nodes := nodes.breakOff reason
    { root := nodes.done.getD (.broken reason)
      labels := nodes.labels
      length := knownEvents events
      fault := fault }

/-- The first document that a text holds. -/
def Document.ofText (s : String) : Document :=
  match forbidden? 0 s.toList with
  | some fault => { root := .broken fault, fault := some fault }
  | none =>
    let cs := unifyBreaks s.toList
    let fuel := 8 * cs.length + 16
    let (outcome, course) := (Reading.readDocument fuel).run { stream := { place := { rest := cs } } }
    let document := Document.ofEvents course.events.reverse outcome
    let (ending, _) := (Reading.isOver fuel).run course
    match outcome, ending with
    | .ok true, .ok true | .ok false, _ | .error _, _ => document
    | .ok true, _ => { document with single := false }

end MovieCatalogue.Yaml

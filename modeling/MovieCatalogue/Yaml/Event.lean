import MovieCatalogue.Yaml.Tag
import MovieCatalogue.Yaml.TokenStream

/-!
Contract: what happens in a YAML document, one event after the other.

Owns: `Event`, a scalar or the start or the end of a sequence or mapping; and the
grammar of tokens, which tells the events of the first document of a text. Where
the grammar is broken, the events before the fault stand.
Does not own: the nodes that events make up; see `Yaml.Reader`.
-/

namespace MovieCatalogue.Yaml

/-- What may stand before a node: a name for it and its tag. -/
structure Properties where
  name : Option String := none
  tag : Option Tag := none
deriving DecidableEq, Repr

/-- A step through a document. -/
inductive Event where
  | alias (start : Position) (name : String)
  | scalar (start : Position) (properties : Properties) (style : Style) (text : String)
  | sequenceStart (start : Position) (properties : Properties)
  | mappingStart (start : Position) (properties : Properties)
  | collectionEnd
deriving DecidableEq, Repr

/-- The tokens that are left, what tags stand for, and the events up to there, the last one first. -/
structure Course where
  stream : TokenStream
  stems : List (String × List UInt8) := []
  events : List Event := []

/-- A step of reading; what was read before a fault stands. -/
abbrev Reading (α : Type) := ExceptT Fault (StateM Course) α

namespace Reading

/-! ## Tokens and events -/

def peek : Reading Token := do
  let course ← get
  let (token, stream) ← MonadExcept.ofExcept course.stream.peek
  set { course with stream := stream }
  return token

def skip : Reading Unit :=
  modify fun course => { course with stream := course.stream.skip }

/-- The token behind the next one. -/
def skipAndPeek : Reading Token := do
  skip
  peek

def emit (event : Event) : Reading Unit :=
  modify fun course => { course with events := event :: course.events }

/-- Tells a scalar where nothing is written. -/
def emitBlank (start : Position) : Reading Unit :=
  emit (.scalar start {} .plain "")

/-- Gives up at a token. -/
def refuse {α : Type} (problem : Problem) (token : Token) (during : Activity) (start : Position) :
    Reading α :=
  throw ⟨problem, token.start, some (during, start)⟩

/-! ## Properties of nodes -/

/-- The tag that a handle and a suffix stand for; its token starts at `tagStart`. -/
def resolveTag (start tagStart : Position) (handle : String) (suffix : List UInt8) :
    Reading (Option Tag) := do
  if handle.isEmpty then return some (Tag.ofBytes suffix)
  match (← get).stems.find? fun entry => entry.1 == handle with
  | some (_, stem) => return some (Tag.ofBytes (stem ++ suffix))
  | none => throw ⟨.unknownHandle, tagStart, some (.node, start)⟩

/-- A name and a tag, in either order; where they start; and the token behind them. -/
def readProperties : Reading (Properties × Position × Token) := do
  let first ← peek
  let start := first.start
  match first.kind with
  | .anchor name =>
    let second ← skipAndPeek
    match second.kind with
    | .tag handle suffix =>
      let next ← skipAndPeek
      return (⟨some name, ← resolveTag start second.start handle suffix⟩, start, next)
    | _ => return (⟨some name, none⟩, start, second)
  | .tag handle suffix =>
    let second ← skipAndPeek
    match second.kind with
    | .anchor name =>
      let next ← skipAndPeek
      return (⟨some name, ← resolveTag start start handle suffix⟩, start, next)
    | _ => return (⟨none, ← resolveTag start start handle suffix⟩, start, second)
  | _ => return ({}, start, first)

/-! ## Nodes -/

inductive Context where
  /-- By indentation, where the items of a sequence may not stand left of their marks. -/
  | block
  /-- By indentation, where a sequence may start without a block of its own. -/
  | member
  | flow
deriving DecidableEq, Repr

/-- Whether a token ends an item by indentation that is not written. -/
def endsItem (token : Token) : Bool :=
  token.kind == .dash || token.kind == .blockEnd

/-- Whether a token ends a key or a value by indentation that is not written. -/
def endsMember (token : Token) : Bool :=
  token.kind == .key || token.kind == .value || token.kind == .blockEnd

mutual

def readNode (fuel : Nat) (context : Context) : Reading Unit :=
  match fuel with
  | 0 => throw { problem := .tooDeep }
  | fuel + 1 => do
    let first ← peek
    if let .alias name := first.kind then
      skip
      emit (.alias first.start name)
    else
      let (properties, start, token) ← readProperties
      match token.kind, context with
      | .dash, .member =>
        emit (.sequenceStart start properties)
        readDashes fuel
      | .scalar style text, _ =>
        skip
        emit (.scalar start properties style text)
      | .bracketOpen, _ =>
        emit (.sequenceStart start properties)
        skip
        readFlowItems fuel token.start true
      | .braceOpen, _ =>
        emit (.mappingStart start properties)
        skip
        readFlowMembers fuel token.start true
      | .sequenceStart, .block | .sequenceStart, .member =>
        emit (.sequenceStart start properties)
        skip
        readItems fuel token.start
      | .mappingStart, .block | .mappingStart, .member =>
        emit (.mappingStart start properties)
        skip
        readMembers fuel token.start
      | _, _ =>
        if properties = {} then
          refuse .noNode token (if context = .flow then .flowNode else .blockNode) start
        else emit (.scalar start properties .plain "")

/-- The items of a sequence by indentation, from a mark or the end of the block on. -/
def readItems (fuel : Nat) (start : Position) : Reading Unit :=
  match fuel with
  | 0 => throw { problem := .tooDeep }
  | fuel + 1 => do
    let token ← peek
    match token.kind with
    | .dash =>
      if endsItem (← skipAndPeek) then emitBlank token.finish else readNode fuel .block
      readItems fuel start
    | .blockEnd =>
      emit .collectionEnd
      skip
    | _ => refuse .noDash token .blockSequence start

/-- The items of a sequence without a block of its own. -/
def readDashes (fuel : Nat) : Reading Unit :=
  match fuel with
  | 0 => throw { problem := .tooDeep }
  | fuel + 1 => do
    let token ← peek
    match token.kind with
    | .dash =>
      let next ← skipAndPeek
      if next.kind == .dash || endsMember next then emitBlank token.finish
      else readNode fuel .block
      readDashes fuel
    | _ => emit .collectionEnd

/-- The members of a mapping by indentation, from a key or the end of the block on. -/
def readMembers (fuel : Nat) (start : Position) : Reading Unit :=
  match fuel with
  | 0 => throw { problem := .tooDeep }
  | fuel + 1 => do
    let token ← peek
    match token.kind with
    | .key =>
      if endsMember (← skipAndPeek) then emitBlank token.finish else readNode fuel .member
      let colon ← peek
      if colon.kind == .value then
        if endsMember (← skipAndPeek) then emitBlank colon.finish else readNode fuel .member
      else emitBlank colon.start
      readMembers fuel start
    | .blockEnd =>
      emit .collectionEnd
      skip
    | _ => refuse .noKey token .blockMapping start

/-- What follows the colon behind a key between brackets, up to a comma or a closing mark. -/
def readFlowValue (fuel : Nat) (close : Token.Kind) : Reading Unit :=
  match fuel with
  | 0 => throw { problem := .tooDeep }
  | fuel + 1 => do
    let token ← peek
    if token.kind == .value then
      let next ← skipAndPeek
      if next.kind == .comma || next.kind == close then emitBlank next.start
      else readNode fuel .flow
    else emitBlank token.start

/-- The items of a sequence up to its closing bracket. A key with a value is an item of its own. -/
def readFlowItems (fuel : Nat) (start : Position) (first : Bool) : Reading Unit :=
  match fuel with
  | 0 => throw { problem := .tooDeep }
  | fuel + 1 => do
    let token ← peek
    if !first && token.kind != .bracketClose && token.kind != .comma then
      refuse .openBracket token .flowSequence start
    let token ← if !first && token.kind == .comma then skipAndPeek else pure token
    match token.kind with
    | .bracketClose =>
      emit .collectionEnd
      skip
    | .key =>
      emit (.mappingStart token.start {})
      let next ← skipAndPeek
      if next.kind == .value || next.kind == .comma || next.kind == .bracketClose then
        skip
        emitBlank next.finish
      else readNode fuel .flow
      readFlowValue fuel .bracketClose
      emit .collectionEnd
      readFlowItems fuel start false
    | _ =>
      readNode fuel .flow
      readFlowItems fuel start false

/-- The members of a mapping up to its closing brace. -/
def readFlowMembers (fuel : Nat) (start : Position) (first : Bool) : Reading Unit :=
  match fuel with
  | 0 => throw { problem := .tooDeep }
  | fuel + 1 => do
    let token ← peek
    if !first && token.kind != .braceClose && token.kind != .comma then
      refuse .openBrace token .flowMapping start
    let token ← if !first && token.kind == .comma then skipAndPeek else pure token
    match token.kind with
    | .braceClose =>
      emit .collectionEnd
      skip
    | .key =>
      let next ← skipAndPeek
      if next.kind == .value || next.kind == .comma || next.kind == .braceClose then
        emitBlank next.start
      else readNode fuel .flow
      readFlowValue fuel .braceClose
      readFlowMembers fuel start false
    | _ =>
      readNode fuel .flow
      emitBlank (← peek).start
      readFlowMembers fuel start false

end

/-! ## Documents -/

/-- What tags stand for without a directive about them. -/
def standardStems : List (String × List UInt8) :=
  [("!", bytesOf ['!']), ("!!", bytesOf coreStem.toList)]

/-- The directives before a document, after a version if there was one; and the token behind. -/
def readDirectives (fuel : Nat) (versioned : Bool) : Reading Token :=
  match fuel with
  | 0 => peek
  | fuel + 1 => do
    let token ← peek
    match token.kind with
    | .version major minor =>
      if versioned then throw ⟨.repeatedVersion, token.start, none⟩
      if major ≠ 1 || (minor ≠ 1 && minor ≠ 2) then throw ⟨.wrongVersion, token.start, none⟩
      skip
      readDirectives fuel true
    | .tagStem handle stem =>
      if (← get).stems.any fun entry => entry.1 == handle then
        throw ⟨.repeatedHandle, token.start, none⟩
      modify fun course => { course with stems := course.stems ++ [(handle, stem)] }
      skip
      readDirectives fuel versioned
    | _ => return token

/-- Whether a token cannot be the start of a node of a document. -/
def endsDocument (token : Token) : Bool :=
  match token.kind with
  | .version _ _ | .tagStem _ _ | .documentStart | .documentEnd | .streamEnd => true
  | _ => false

/-- The first document of a text, up to the mark behind it; whether there is one. -/
def readDocument (fuel : Nat) : Reading Bool := do
  let first ← peek
  let token ← readDirectives fuel false
  modify fun course => { course with stems := course.stems ++ standardStems }
  if first.kind == .streamEnd then return false
  if token.kind == .documentStart then
    let next ← skipAndPeek
    if endsDocument next then emitBlank next.start else readNode fuel .block
  else if endsDocument first && first.kind != .documentEnd then
    throw ⟨.noDocumentStart, token.start, none⟩
  else readNode fuel .block
  if (← peek).kind == .documentEnd then skip
  return true

/-- Whether nothing follows a document but end marks. -/
def isOver (fuel : Nat) : Reading Bool :=
  match fuel with
  | 0 => return false
  | fuel + 1 => do
    match (← peek).kind with
    | .documentEnd =>
      skip
      isOver fuel
    | kind => return kind == .streamEnd

end Reading

end MovieCatalogue.Yaml

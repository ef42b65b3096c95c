import MovieCatalogue.Yaml.Token

/-!
Contract: the tokens of a YAML text, one after the other.

Owns: `TokenStream`, a place in a text with the tokens that were read before it
and not taken yet. In block context the first token of a line tells how deep the
line stands, and deeper lines open mappings and sequences that shallower lines
close. Whether a token is the key of a member shows only at the colon behind it,
so a token that may be one is held back until then; a key stands on one line and
has at most 1024 bytes.
Does not own: which tokens may follow each other; see `Yaml.Event`.
-/

namespace MovieCatalogue.Yaml

/-- A token that may be the key of a member. -/
structure PossibleKey where
  /-- Whether nothing else may stand where it stands. -/
  required : Bool
  /-- The number of tokens before it. -/
  number : Nat
  place : Place
deriving DecidableEq, Repr

/-- A place in a text with the tokens that were read and not taken yet. -/
structure TokenStream where
  place : Place
  /-- The column of the innermost block, and before it those of the blocks around it. -/
  indent : Int := -1
  outerIndents : List Int := []
  /-- What may be a key in the block, and in each pair of brackets from the innermost on. -/
  blockKey : Option PossibleKey := none
  flowKeys : List (Option PossibleKey) := []
  keyAllowed : Bool := true
  /-- The number of tokens that were taken. -/
  taken : Nat := 0
  waiting : List Token := []
deriving DecidableEq, Repr

namespace TokenStream

/-! ## Parts of the state -/

/-- Whether the place is between brackets. -/
def inFlow (stream : TokenStream) : Bool :=
  !stream.flowKeys.isEmpty

/-- What may be a key in the innermost brackets, or in the block. -/
def currentKey (stream : TokenStream) : Option PossibleKey :=
  match stream.flowKeys with
  | [] => stream.blockKey
  | key :: _ => key

/-- The stream with another token that may be a key, or with none. -/
def setKey (stream : TokenStream) (key : Option PossibleKey) : TokenStream :=
  match stream.flowKeys with
  | [] => { stream with blockKey := key }
  | _ :: keys => { stream with flowKeys := key :: keys }

def push (stream : TokenStream) (token : Token) : TokenStream :=
  { stream with waiting := stream.waiting ++ [token] }

/-- Adds a token in front of the one with a given number. -/
def insert (stream : TokenStream) (number : Nat) (token : Token) : TokenStream :=
  { stream with waiting := stream.waiting.insertIdx (number - stream.taken) token }

/-- A mark of some length as a token. -/
def pushMark (stream : TokenStream) (kind : Token.Kind) (length : Nat) : TokenStream :=
  let after := stream.place.advance length
  { stream.push ⟨kind, stream.place.position, after.position⟩ with place := after }

/-! ## Blocks -/

/-- Opens a block at a column, in front of the token with a given number if there is one. -/
def openBlock (stream : TokenStream) (kind : Token.Kind) (start : Position)
    (number : Option Nat) : TokenStream :=
  if stream.inFlow || (start.column : Int) ≤ stream.indent then stream
  else
    let token : Token := ⟨kind, start, start⟩
    let deeper := { stream with
      indent := start.column
      outerIndents := stream.indent :: stream.outerIndents }
    match number with
    | some number => deeper.insert number token
    | none => deeper.push token

/-- Closes the blocks that stand right of a column, given the columns around them. -/
def closeBlocks (column : Int) : List Int → TokenStream → TokenStream
  | [], stream => stream
  | outer :: indents, stream =>
    if stream.inFlow || stream.indent ≤ column then stream
    else
      let here := stream.place.position
      closeBlocks column indents
        { stream.push ⟨.blockEnd, here, here⟩ with indent := outer, outerIndents := indents }

/-- Closes the blocks that stand right of a column. -/
def unindent (stream : TokenStream) (column : Int) : TokenStream :=
  closeBlocks column stream.outerIndents stream

/-! ## Keys -/

def noColon (stream : TokenStream) (key : PossibleKey) : Fault :=
  ⟨.noColon, stream.place.position, some (.simpleKey, key.place.position)⟩

/-- Gives up what may be a key, unless it has to be one. -/
def dropKey (stream : TokenStream) : Except Fault TokenStream :=
  match stream.currentKey with
  | some key =>
    if key.required then .error (stream.noColon key) else .ok (stream.setKey none)
  | none => .ok stream

/-- Holds that the next token may be a key, if a key may stand here. -/
def offerKey (stream : TokenStream) : Except Fault TokenStream := do
  if stream.keyAllowed then
    let key : PossibleKey :=
      { required := !stream.inFlow && stream.indent == stream.place.column
        number := stream.taken + stream.waiting.length
        place := stream.place }
    return (← stream.dropKey).setKey (some key)
  return stream

/-- Whether what may be a key is too far behind to be one. -/
def isStale (stream : TokenStream) (key : PossibleKey) : Bool :=
  key.place.position.line < stream.place.position.line ||
    key.place.offset + 1024 < stream.place.offset

/-- What is left of something that may be a key. -/
def refreshKey (stream : TokenStream) : Option PossibleKey → Except Fault (Option PossibleKey)
  | none => .ok none
  | some key =>
    if !stream.isStale key then .ok (some key)
    else if key.required then .error (stream.noColon key)
    else .ok none

/-- Gives up what is too far behind to be a key. -/
def dropStale (stream : TokenStream) : Except Fault TokenStream := do
  let blockKey ← stream.refreshKey stream.blockKey
  let flowKeys ← stream.flowKeys.reverse.mapM stream.refreshKey
  return { stream with blockKey := blockKey, flowKeys := flowKeys.reverse }

/-! ## From token to token -/

/-- The place behind a mark of byte order, which may stand at the start of a line. -/
def passOrderMark (place : Place) : Place :=
  if place.column = 0 && place.isAt '\ufeff' then place.advance 1 else place

/--
The place of the next token, and whether a key may stand there. Blanks, comments
and line breaks are passed, but a tab may not start a line or follow a mark
behind which a key may stand.
-/
def findToken (fuel : Nat) (flow keyAllowed : Bool) (place : Place) : Bool × Place :=
  match fuel with
  | 0 => (keyAllowed, place)
  | fuel + 1 =>
    let place := (passOrderMark place).skipWhile fun c => c == ' ' || ((flow || !keyAllowed) && c == '\t')
    let place := if place.isAt '#' then place.skipLine else place
    if place.rest.head?.any isBreak then
      findToken fuel flow (!flow || keyAllowed) (place.advance 1)
    else (keyAllowed, place)

/-- A mark that closes all blocks. -/
def readAlone (stream : TokenStream) : Except Fault TokenStream := do
  return { ← (stream.unindent (-1)).dropKey with keyAllowed := false }

/-- The end of the text, which closes all blocks at the start of a new line. -/
def readEnd (stream : TokenStream) : Except Fault TokenStream := do
  let here := stream.place.position
  let finish : Position := if here.column = 0 then here else ⟨here.line + 1, 0⟩
  let stream := { stream with place := { stream.place with position := finish } }
  return (← stream.readAlone).pushMark .streamEnd 0

def readOpen (stream : TokenStream) (kind : Token.Kind) : Except Fault TokenStream := do
  let stream ← stream.offerKey
  return { stream.pushMark kind 1 with
    flowKeys := none :: stream.flowKeys
    keyAllowed := true }

def readClose (stream : TokenStream) (kind : Token.Kind) : Except Fault TokenStream := do
  let stream ← stream.dropKey
  return { stream.pushMark kind 1 with
    flowKeys := stream.flowKeys.tail
    keyAllowed := false }

/-- The refusal of a mark that may not stand here. -/
def refuse (stream : TokenStream) (problem : Problem) : Except Fault TokenStream :=
  .error ⟨problem, stream.place.position, none⟩

/-- The mark of an item by indentation; between brackets it is left to the reader of tokens. -/
def readDash (stream : TokenStream) : Except Fault TokenStream := do
  if !stream.inFlow && !stream.keyAllowed then stream.refuse .misplacedEntry
  else
    let stream := stream.openBlock .sequenceStart stream.place.position none
    return { (← stream.dropKey).pushMark .dash 1 with keyAllowed := true }

/-- The mark of a key that may be more than a scalar on one line. -/
def readKeyMark (stream : TokenStream) : Except Fault TokenStream := do
  if !stream.inFlow && !stream.keyAllowed then stream.refuse .misplacedKey
  else
    let stream := stream.openBlock .mappingStart stream.place.position none
    return { (← stream.dropKey).pushMark .key 1 with keyAllowed := !stream.inFlow }

/-- The colon behind a key, which tells what the key is. -/
def readColon (stream : TokenStream) : Except Fault TokenStream :=
  match stream.currentKey with
  | some key =>
    let start := key.place.position
    let keyed := stream.insert key.number ⟨.key, start, start⟩
    let opened := (keyed.openBlock .mappingStart start (some key.number)).setKey none
    .ok { opened.pushMark .value 1 with keyAllowed := false }
  | none =>
    if !stream.inFlow && !stream.keyAllowed then stream.refuse .misplacedValue
    else
      let stream := stream.openBlock .mappingStart stream.place.position none
      .ok { stream.pushMark .value 1 with keyAllowed := !stream.inFlow }

def pushRead (stream : TokenStream) (kind : Token.Kind) (after : Place) : TokenStream :=
  { stream.push ⟨kind, stream.place.position, after.position⟩ with
    place := after, keyAllowed := false }

/-- A name that is given to a node, or the one of a node before. -/
def readNameToken (stream : TokenStream) (activity : Activity) (kind : String → Token.Kind) :
    Except Fault TokenStream := do
  let stream ← stream.offerKey
  let (name, after) ← readName activity stream.place
  return stream.pushRead (kind name) after

def readTagToken (stream : TokenStream) : Except Fault TokenStream := do
  let stream ← stream.offerKey
  let (handle, suffix, after) ← readTag stream.inFlow stream.place
  return stream.pushRead (.tag handle suffix) after

def readBlockToken (stream : TokenStream) (style : Style) : Except Fault TokenStream := do
  let stream ← stream.dropKey
  let (text, after) ←
    readBlock (style == .folded) stream.indent stream.place.position (stream.place.advance 1)
  return { stream.pushRead (.scalar style (String.ofList text)) after with keyAllowed := true }

def readQuotedToken (stream : TokenStream) (quote : Char) : Except Fault TokenStream := do
  let stream ← stream.offerKey
  let start := stream.place
  let (text, after) ← readQuoted (start.rest.length + 1) quote start.position (start.advance 1)
  return stream.pushRead (.scalar .quoted (String.ofList text)) after

/-- A plain scalar; if it ends at the end of its line a key may follow. -/
def readPlainToken (stream : TokenStream) : Except Fault TokenStream := do
  let stream ← stream.offerKey
  let start := stream.place
  let (text, gap, after) ←
    readPlain (start.rest.length + 1) stream.inFlow (stream.indent + 1) start.position [] start
  return { stream.pushRead (.scalar .plain (String.ofList text)) after with
    keyAllowed := gap.any isBreak }

def readBy (stream : TokenStream) (c : Char) (cs : List Char) : Except Fault TokenStream :=
  let block := !stream.inFlow
  match c with
  | '[' => stream.readOpen .bracketOpen
  | ']' => stream.readClose .bracketClose
  | '\x7b' => stream.readOpen .braceOpen
  | '\x7d' => stream.readClose .braceClose
  | ',' => do return { (← stream.dropKey).pushMark .comma 1 with keyAllowed := true }
  | '*' => stream.readNameToken .alias .alias
  | '&' => stream.readNameToken .anchor .anchor
  | '!' => stream.readTagToken
  | '\x27' | '"' => stream.readQuotedToken c
  | _ =>
    if c = '-' && isWordEnd cs then stream.readDash
    else if c = '?' && (!block || isWordEnd cs) then stream.readKeyMark
    else if c = ':' && (!block || isWordEnd cs) then stream.readColon
    else if c = '|' && block then stream.readBlockToken .literal
    else if c = '>' && block then stream.readBlockToken .folded
    else if startsPlain stream.inFlow (c :: cs) then stream.readPlainToken
    else .error ⟨.strangeStart, stream.place.position, some (.nextToken, stream.place.position)⟩

/-- Reads the next token, and whatever shows only by it. -/
def readToken (stream : TokenStream) : Except Fault TokenStream := do
  let (keyAllowed, place) :=
    findToken (stream.place.rest.length + 1) stream.inFlow stream.keyAllowed stream.place
  let stream ← { stream with keyAllowed := keyAllowed, place := place }.dropStale
  let stream := stream.unindent place.column
  match place.rest with
  | [] => stream.readEnd
  | c :: cs =>
    if c = '%' && place.column == 0 then
      let stream ← stream.readAlone
      let (token, after) ← readDirective place
      return { stream.push token with place := after }
    else if place.isMark "---" then return (← stream.readAlone).pushMark .documentStart 3
    else if place.isMark "..." then return (← stream.readAlone).pushMark .documentEnd 3
    else stream.readBy c cs

/-- Whether the first token that waits is there and will not turn out to be a key. -/
def isReady (stream : TokenStream) : Bool :=
  !stream.waiting.isEmpty &&
    (stream.blockKey :: stream.flowKeys).all fun key => key.all (·.number ≠ stream.taken)

/-- Reads tokens until the first one that waits is settled. -/
def settle (fuel : Nat) (stream : TokenStream) : Except Fault TokenStream :=
  match fuel with
  | 0 => .error ⟨.endOfText, stream.place.position, none⟩
  | fuel + 1 =>
    if stream.waiting.isEmpty then do settle fuel (← stream.readToken)
    else do
      let stream ← stream.dropStale
      if stream.isReady then return stream
      settle fuel (← stream.readToken)

/-- The first token that waits, and the stream that knows it. -/
def peek (stream : TokenStream) : Except Fault (Token × TokenStream) := do
  let stream ← stream.settle (stream.place.rest.length + 3)
  match stream.waiting with
  | token :: _ => return (token, stream)
  | [] => throw ⟨.endOfText, stream.place.position, none⟩

/-- The stream without the first token that waits. -/
def skip (stream : TokenStream) : TokenStream :=
  { stream with waiting := stream.waiting.drop 1, taken := stream.taken + 1 }

end TokenStream

end MovieCatalogue.Yaml

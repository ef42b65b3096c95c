import MovieCatalogue.Yaml.Place

/-!
Contract: why a text is no YAML.

Owns: `Problem`, the cause; `Activity`, what was being read; and `Fault`, a cause
with its position, which may also tell what was being read and where that
started; with their texts.
Does not own: documents that are read well and are not what was expected; see
`Yaml.Spot`.
-/

namespace MovieCatalogue.Yaml

/-- What is wrong in a text. -/
inductive Problem where
  | controlCharacter (offset : Nat)
  | strangeStart
  | noColon
  | misplacedEntry
  | misplacedKey
  | misplacedValue
  | noDirectiveName
  | strangeDirectiveName
  | unknownDirective
  | noVersionNumber
  | longVersionNumber
  | noVersionDot
  | noCommentOrBreak
  | noBlank
  | noBlankOrBreak
  | noName
  | noTagMark
  | noTagEnd
  | noTag
  | noOctet
  | badLeadingOctet
  | badTrailingOctet
  | zeroIndent
  | tabInIndent
  | documentMark
  | endOfText
  | unknownEscape
  | noHexDigits
  | badCodePoint
  | strangeColon
  | tabBelowIndent
  | noDocumentStart
  | repeatedVersion
  | wrongVersion
  | repeatedHandle
  | unknownHandle
  | noNode
  | noDash
  | noKey
  | openBracket
  | openBrace
  | unknownName
  | tooDeep
deriving DecidableEq, Repr

def Problem.message : Problem → String
  | .controlCharacter offset =>
    "control characters are not allowed" ++
      (if offset = 0 then "" else " at position " ++ Number.natText offset)
  | .strangeStart => "found character that cannot start any token"
  | .noColon => "could not find expected ':'"
  | .misplacedEntry => "block sequence entries are not allowed in this context"
  | .misplacedKey => "mapping keys are not allowed in this context"
  | .misplacedValue => "mapping values are not allowed in this context"
  | .noDirectiveName => "could not find expected directive name"
  | .strangeDirectiveName => "found unexpected non-alphabetical character"
  | .unknownDirective => "found unknown directive name"
  | .noVersionNumber => "did not find expected version number"
  | .longVersionNumber => "found extremely long version number"
  | .noVersionDot => "did not find expected digit or '.' character"
  | .noCommentOrBreak => "did not find expected comment or line break"
  | .noBlank => "did not find expected whitespace"
  | .noBlankOrBreak => "did not find expected whitespace or line break"
  | .noName => "did not find expected alphabetic or numeric character"
  | .noTagMark => "did not find expected '!'"
  | .noTagEnd => "did not find the expected '>'"
  | .noTag => "did not find expected tag URI"
  | .noOctet => "did not find URI escaped octet"
  | .badLeadingOctet => "found an incorrect leading UTF-8 octet"
  | .badTrailingOctet => "found an incorrect trailing UTF-8 octet"
  | .zeroIndent => "found an indentation indicator equal to 0"
  | .tabInIndent => "found a tab character where an indentation space is expected"
  | .documentMark => "found unexpected document indicator"
  | .endOfText => "found unexpected end of stream"
  | .unknownEscape => "found unknown escape character"
  | .noHexDigits => "did not find expected hexdecimal number"
  | .badCodePoint => "found invalid Unicode character escape code"
  | .strangeColon => "found unexpected ':'"
  | .tabBelowIndent => "found a tab character that violates indentation"
  | .noDocumentStart => "did not find expected <document start>"
  | .repeatedVersion => "found duplicate %YAML directive"
  | .wrongVersion => "found incompatible YAML document"
  | .repeatedHandle => "found duplicate %TAG directive"
  | .unknownHandle => "found undefined tag handle"
  | .noNode => "did not find expected node content"
  | .noDash => "did not find expected '-' indicator"
  | .noKey => "did not find expected key"
  | .openBracket => "did not find expected ',' or ']'"
  | .openBrace => "did not find expected ',' or '\x7d'"
  | .unknownName => "unknown anchor"
  | .tooDeep => "recursion limit exceeded"

/-- What was being read when a problem was met. -/
inductive Activity where
  | nextToken
  | simpleKey
  | directive
  | version
  | handle
  | handleStart
  | handleEnd
  | anchor
  | alias
  | tag
  | tagText
  | handleText
  | block
  | quoted
  | escape
  | plain
  | node
  | blockNode
  | flowNode
  | blockSequence
  | blockMapping
  | flowSequence
  | flowMapping
deriving DecidableEq, Repr

def Activity.message : Activity → String
  | .nextToken => "while scanning for the next token"
  | .simpleKey => "while scanning a simple key"
  | .directive => "while scanning a directive"
  | .version => "while scanning a %YAML directive"
  | .handle => "while scanning a %TAG directive"
  | .handleStart => "while scanning a tag directive"
  | .handleEnd => "while parsing a tag directive"
  | .anchor => "while scanning an anchor"
  | .alias => "while scanning an alias"
  | .tag => "while scanning a tag"
  | .tagText => "while parsing a tag"
  | .handleText => "while parsing a %TAG directive"
  | .block => "while scanning a block scalar"
  | .quoted => "while scanning a quoted scalar"
  | .escape => "while parsing a quoted scalar"
  | .plain => "while scanning a plain scalar"
  | .node => "while parsing a node"
  | .blockNode => "while parsing a block node"
  | .flowNode => "while parsing a flow node"
  | .blockSequence => "while parsing a block collection"
  | .blockMapping => "while parsing a block mapping"
  | .flowSequence => "while parsing a flow sequence"
  | .flowMapping => "while parsing a flow mapping"

/-- A problem with its position, and what was being read from where on. -/
structure Fault where
  problem : Problem
  position : Position := {}
  during : Option (Activity × Position) := none
deriving DecidableEq, Repr

/-- The text of a fault. The start of what was being read is left out where the problem is. -/
def Fault.message (fault : Fault) : String :=
  fault.problem.message ++ fault.position.phrase ++
    match fault.during with
    | none => ""
    | some (activity, start) =>
      ", " ++ activity.message ++ (if start = fault.position then "" else start.phrase)

end MovieCatalogue.Yaml

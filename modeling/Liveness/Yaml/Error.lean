/-! What can be wrong with a YAML text, and where. -/

namespace Liveness.Yaml

/-- A place in a text: the characters before it, and its line and column, all counted
from zero. -/
structure Mark where
  index : Nat
  line : Nat
  column : Nat
  deriving DecidableEq, Repr

def Mark.start : Mark := ⟨0, 0, 0⟩

/-- The first place of a text is not worth a mention. -/
def Mark.isNotable (m : Mark) : Bool := m.line ≠ 0 || m.column ≠ 0

def Mark.describe (m : Mark) : String :=
  "line " ++ (m.line + 1).repr ++ " column " ++ (m.column + 1).repr

inductive Problem where
  | noTokenStart
  | noSimpleKeyColon
  | blockEntryNotAllowed
  | keyNotAllowed
  | valueNotAllowed
  | unknownDirective
  | noDirectiveName
  | badDirectiveName
  | noCommentOrBreak
  | longVersion
  | noVersion
  | noVersionPoint
  | noTagBlank
  | noTagBlankOrBreak
  | noTagMark
  | noTagEnd
  | noTagUri
  | noEscapedOctet
  | badLeadingOctet
  | badTrailingOctet
  | noAnchorName
  | zeroIndentation
  | tabInIndentation
  | tabInPlain
  | colonInPlain
  | documentIndicator
  | endOfStream
  | unknownEscape
  | noHexNumber
  | badCodePoint
  | noDocumentStart
  | noNodeContent
  | undefinedTagHandle
  | noBlockEntry
  | noBlockKey
  | noSequenceEnd
  | noMappingEnd
  | duplicateVersion
  | incompatibleVersion
  | duplicateTagDirective
  deriving DecidableEq, Repr

def Problem.message : Problem → String
  | .noTokenStart => "found character that cannot start any token"
  | .noSimpleKeyColon => "could not find expected ':'"
  | .blockEntryNotAllowed => "block sequence entries are not allowed in this context"
  | .keyNotAllowed => "mapping keys are not allowed in this context"
  | .valueNotAllowed => "mapping values are not allowed in this context"
  | .unknownDirective => "found unknown directive name"
  | .noDirectiveName => "could not find expected directive name"
  | .badDirectiveName => "found unexpected non-alphabetical character"
  | .noCommentOrBreak => "did not find expected comment or line break"
  | .longVersion => "found extremely long version number"
  | .noVersion => "did not find expected version number"
  | .noVersionPoint => "did not find expected digit or '.' character"
  | .noTagBlank => "did not find expected whitespace"
  | .noTagBlankOrBreak => "did not find expected whitespace or line break"
  | .noTagMark => "did not find expected '!'"
  | .noTagEnd => "did not find the expected '>'"
  | .noTagUri => "did not find expected tag URI"
  | .noEscapedOctet => "did not find URI escaped octet"
  | .badLeadingOctet => "found an incorrect leading UTF-8 octet"
  | .badTrailingOctet => "found an incorrect trailing UTF-8 octet"
  | .noAnchorName => "did not find expected alphabetic or numeric character"
  | .zeroIndentation => "found an indentation indicator equal to 0"
  | .tabInIndentation => "found a tab character where an indentation space is expected"
  | .tabInPlain => "found a tab character that violates indentation"
  | .colonInPlain => "found unexpected ':'"
  | .documentIndicator => "found unexpected document indicator"
  | .endOfStream => "found unexpected end of stream"
  | .unknownEscape => "found unknown escape character"
  | .noHexNumber => "did not find expected hexdecimal number"
  | .badCodePoint => "found invalid Unicode character escape code"
  | .noDocumentStart => "did not find expected <document start>"
  | .noNodeContent => "did not find expected node content"
  | .undefinedTagHandle => "found undefined tag handle"
  | .noBlockEntry => "did not find expected '-' indicator"
  | .noBlockKey => "did not find expected key"
  | .noSequenceEnd => "did not find expected ',' or ']'"
  | .noMappingEnd => "did not find expected ',' or '\x7d'"
  | .duplicateVersion => "found duplicate %YAML directive"
  | .incompatibleVersion => "found incompatible YAML document"
  | .duplicateTagDirective => "found duplicate %TAG directive"

/-- What was being read. -/
inductive Context where
  | nextToken
  | simpleKey
  | directive
  | versionDirective
  | tagDirective
  | tagDirectiveHandle
  | tagDirectiveName
  | tagDirectivePrefix
  | tag
  | tagUri
  | anchor
  | alias
  | blockScalar
  | quotedScalar
  | quotedEscape
  | plainScalar
  | node
  | blockNode
  | flowNode
  | blockSequence
  | blockMapping
  | flowSequence
  | flowMapping
  deriving DecidableEq, Repr

def Context.message : Context → String
  | .nextToken => "while scanning for the next token"
  | .simpleKey => "while scanning a simple key"
  | .directive => "while scanning a directive"
  | .versionDirective => "while scanning a %YAML directive"
  | .tagDirective => "while scanning a %TAG directive"
  | .tagDirectiveHandle => "while scanning a tag directive"
  | .tagDirectiveName => "while parsing a tag directive"
  | .tagDirectivePrefix => "while parsing a %TAG directive"
  | .tag => "while scanning a tag"
  | .tagUri => "while parsing a tag"
  | .anchor => "while scanning an anchor"
  | .alias => "while scanning an alias"
  | .blockScalar => "while scanning a block scalar"
  | .quotedScalar => "while scanning a quoted scalar"
  | .quotedEscape => "while parsing a quoted scalar"
  | .plainScalar => "while scanning a plain scalar"
  | .node => "while parsing a node"
  | .blockNode => "while parsing a block node"
  | .flowNode => "while parsing a flow node"
  | .blockSequence => "while parsing a block collection"
  | .blockMapping => "while parsing a block mapping"
  | .flowSequence => "while parsing a flow sequence"
  | .flowMapping => "while parsing a flow mapping"

/-- A text that is no YAML. -/
inductive Error where
  | controlCharacter (offset : Nat)
  | malformed (problem : Problem) (place : Mark) (context : Option (Context × Mark))
  | unknownAnchor (place : Mark)
  deriving DecidableEq, Repr

/-- The context of an error, with its place unless that is the place of the error. -/
def contextMessage (place : Mark) : Option (Context × Mark) → String
  | none => ""
  | some (c, m) =>
    ", " ++ c.message ++
      if m.isNotable && (m.line ≠ place.line || m.column ≠ place.column) then
        " at " ++ m.describe
      else ""

def atPlace (m : Mark) : String := if m.isNotable then " at " ++ m.describe else ""

def Error.message : Error → String
  | .controlCharacter offset =>
    "control characters are not allowed" ++
      if offset = 0 then "" else " at position " ++ offset.repr
  | .malformed p place context => p.message ++ atPlace place ++ contextMessage place context
  | .unknownAnchor place => "unknown anchor" ++ atPlace place

end Liveness.Yaml

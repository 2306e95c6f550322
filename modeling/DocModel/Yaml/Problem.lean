import DocModel.Text.Basic

/-!
# DocModel.Yaml.Problem

What can be wrong with a YAML text, and where.

* `Fault` and `Context` are the causes and what was being read;
* `Problem.message` words them, with every place but the very beginning of the text.
-/

namespace DocModel
namespace Yaml

open Text

/-- A place in a text; both numbers count from zero. -/
structure Mark where
  line : Nat := 0
  /-- The characters before it on the line. -/
  column : Nat := 0
  deriving DecidableEq, Repr, Inhabited

namespace Mark

/-- Whether this is the beginning of the text. -/
def isOrigin (m : Mark) : Bool := m.line == 0 && m.column == 0

/-- The words for a place; none for the beginning of the text. -/
def phrase (m : Mark) : String :=
  if m.isOrigin then ""
  else " at line " ++ natText (m.line + 1) ++ " column " ++ natText (m.column + 1)

end Mark

/-- What is wrong. -/
inductive Fault where
  /-- A character that no text may hold. -/
  | controlCharacter
  /-- A character at which nothing begins. -/
  | noToken
  /-- A line that has to be a key is none. -/
  | missingColon
  /-- An entry of a sequence where none may begin. -/
  | misplacedEntry
  /-- A key where none may begin. -/
  | misplacedKey
  /-- A value where none may begin. -/
  | misplacedValue
  /-- The text ends inside quotes. -/
  | unexpectedEnd
  /-- A mark between documents inside quotes. -/
  | unexpectedDocumentMark
  /-- A backslash before a character that has no meaning there. -/
  | unknownEscape
  /-- Too few hexadecimal digits after a backslash. -/
  | missingHexDigit
  /-- The number after a backslash is no character. -/
  | invalidCharacterCode
  /-- A colon in front of an indicator, inside brackets. -/
  | unexpectedColon
  /-- A tab in the indentation of a plain text. -/
  | tabInPlainText
  /-- A tab in the indentation of a block text. -/
  | tabInBlockText
  /-- A block text that is to be indented by nothing. -/
  | zeroIndentation
  /-- Something else before the end of a line. -/
  | missingLineEnd
  /-- An anchor or alias without a name, or with a wrong character after it. -/
  | missingAnchorName
  /-- A tag without an exclamation mark. -/
  | missingExclamation
  /-- A tag without the bracket at its end. -/
  | missingTagEnd
  /-- A tag with a wrong character after it. -/
  | missingTagBreak
  /-- A tag without a name. -/
  | missingTagName
  /-- A percent sign in a tag without two hexadecimal digits. -/
  | missingOctet
  /-- A number in a tag that begins no character. -/
  | wrongLeadingOctet
  /-- A number in a tag that continues no character. -/
  | wrongTrailingOctet
  /-- A directive without a name. -/
  | missingDirectiveName
  /-- The name of a directive with another character in it. -/
  | wrongDirectiveName
  /-- A directive that is not known. -/
  | unknownDirective
  /-- A version without its point. -/
  | missingVersionPoint
  /-- A version without a number. -/
  | missingVersionNumber
  /-- A version with a number of more than nine digits. -/
  | longVersionNumber
  /-- A tag directive without white space after its handle. -/
  | missingBlank
  /-- A second version for one document. -/
  | duplicateVersion
  /-- A version other than 1.1 and 1.2. -/
  | incompatibleVersion
  /-- A second meaning for one tag handle. -/
  | duplicateTagHandle
  /-- A tag handle without a meaning. -/
  | undefinedTagHandle
  /-- No beginning of a document after its directives. -/
  | missingDocumentStart
  /-- No value where one is due. -/
  | missingNode
  /-- Something else inside a sequence. -/
  | missingEntry
  /-- Something else inside a mapping. -/
  | missingKey
  /-- Something else inside square brackets. -/
  | missingSequenceEnd
  | missingMappingEnd
  deriving DecidableEq, Repr

namespace Fault

def message : Fault → String
  | controlCharacter => "control characters are not allowed"
  | noToken => "found character that cannot start any token"
  | missingColon => "could not find expected ':'"
  | misplacedEntry => "block sequence entries are not allowed in this context"
  | misplacedKey => "mapping keys are not allowed in this context"
  | misplacedValue => "mapping values are not allowed in this context"
  | unexpectedEnd => "found unexpected end of stream"
  | unexpectedDocumentMark => "found unexpected document indicator"
  | unknownEscape => "found unknown escape character"
  | missingHexDigit => "did not find expected hexdecimal number"
  | invalidCharacterCode => "found invalid Unicode character escape code"
  | unexpectedColon => "found unexpected ':'"
  | tabInPlainText => "found a tab character that violates indentation"
  | tabInBlockText => "found a tab character where an indentation space is expected"
  | zeroIndentation => "found an indentation indicator equal to 0"
  | missingLineEnd => "did not find expected comment or line break"
  | missingAnchorName => "did not find expected alphabetic or numeric character"
  | missingExclamation => "did not find expected '!'"
  | missingTagEnd => "did not find the expected '>'"
  | missingTagBreak => "did not find expected whitespace or line break"
  | missingTagName => "did not find expected tag URI"
  | missingOctet => "did not find URI escaped octet"
  | wrongLeadingOctet => "found an incorrect leading UTF-8 octet"
  | wrongTrailingOctet => "found an incorrect trailing UTF-8 octet"
  | missingDirectiveName => "could not find expected directive name"
  | wrongDirectiveName => "found unexpected non-alphabetical character"
  | unknownDirective => "found unknown directive name"
  | missingVersionPoint => "did not find expected digit or '.' character"
  | missingVersionNumber => "did not find expected version number"
  | longVersionNumber => "found extremely long version number"
  | missingBlank => "did not find expected whitespace"
  | duplicateVersion => "found duplicate %YAML directive"
  | incompatibleVersion => "found incompatible YAML document"
  | duplicateTagHandle => "found duplicate %TAG directive"
  | undefinedTagHandle => "found undefined tag handle"
  | missingDocumentStart => "did not find expected <document start>"
  | missingNode => "did not find expected node content"
  | missingEntry => "did not find expected '-' indicator"
  | missingKey => "did not find expected key"
  | missingSequenceEnd => "did not find expected ',' or ']'"
  | missingMappingEnd => "did not find expected ',' or '\x7d'"

end Fault

/-- What was being read. -/
inductive Context where
  | nextToken
  /-- A key on one line. -/
  | simpleKey
  | quotedScalar
  | quotedCharacter
  | plainScalar
  | blockScalar
  | anchor
  | reference
  /-- A tag as a whole. -/
  | tag
  | tagName
  | directive
  | version
  /-- The meaning of a tag handle. -/
  | tagDirective
  | tagDirectiveHandle
  /-- The end of the handle in a tag directive. -/
  | tagDirectiveHandleEnd
  | tagDirectivePrefix
  /-- A value with its tag and anchor. -/
  | node
  /-- A value in block style. -/
  | blockNode
  | flowNode
  /-- A sequence in block style. -/
  | blockSequence
  /-- A mapping in block style. -/
  | blockMapping
  /-- A sequence between square brackets. -/
  | flowSequence
  | flowMapping
  deriving DecidableEq, Repr

namespace Context

/-- The words for what was being read. -/
def message : Context → String
  | nextToken => "while scanning for the next token"
  | simpleKey => "while scanning a simple key"
  | quotedScalar => "while scanning a quoted scalar"
  | quotedCharacter => "while parsing a quoted scalar"
  | plainScalar => "while scanning a plain scalar"
  | blockScalar => "while scanning a block scalar"
  | anchor => "while scanning an anchor"
  | reference => "while scanning an alias"
  | tag => "while scanning a tag"
  | tagName => "while parsing a tag"
  | directive => "while scanning a directive"
  | version => "while scanning a %YAML directive"
  | tagDirective => "while scanning a %TAG directive"
  | tagDirectiveHandle => "while scanning a tag directive"
  | tagDirectiveHandleEnd => "while parsing a tag directive"
  | tagDirectivePrefix => "while parsing a %TAG directive"
  | node => "while parsing a node"
  | blockNode => "while parsing a block node"
  | flowNode => "while parsing a flow node"
  | blockSequence => "while parsing a block collection"
  | blockMapping => "while parsing a block mapping"
  | flowSequence => "while parsing a flow sequence"
  | flowMapping => "while parsing a flow mapping"

end Context

/-- A fault with its place. -/
structure Problem where
  fault : Fault
  mark : Mark := {}
  /-- Where, in bytes, for a fault that is found before lines are counted. -/
  offset : Nat := 0
  /-- What was being read, and where it begins. -/
  context : Option (Context × Mark) := none
  deriving DecidableEq, Repr

namespace Problem

def message (p : Problem) : String :=
  let place :=
    if p.mark.isOrigin && p.offset != 0 then " at position " ++ natText p.offset
    else p.mark.phrase
  let context := match p.context with
    | some (what, start) =>
      ", " ++ what.message ++ (if start == p.mark then "" else start.phrase)
    | none => ""
  p.fault.message ++ place ++ context

end Problem
end Yaml
end DocModel

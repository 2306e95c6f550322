import DocModel.Markdown.Block
import DocModel.Markdown.Entity
import DocModel.Markdown.Html
import DocModel.Markdown.LinkDefinition
import DocModel.Markdown.Scan
import DocModel.Markdown.Table

/-!
# DocModel.Markdown.OpenBlock

Blocks that may still grow while a text is read line by line. The open blocks form a chain from
the document down to the innermost block; it is kept as a list, innermost first.

* `continues` tells whether a line belongs to an open block, past the marker it takes;
* `finish` turns a block that has ended into a finished one;
* `closeHead`, `closeUnder` and `openChild` change the chain.
-/

namespace DocModel
namespace Markdown

/-- What an open block is. -/
inductive OpenKind where
  | document
  | quote
  /-- A list whose items have this marker. -/
  | list (marker : ListMarker)
  /-- An item; lines indented by `width` columns belong to it. -/
  | item (width : Nat)
  /-- A paragraph; whether it is settled that it is no head of a table. -/
  | paragraph (noTable : Bool)
  | heading (level : Nat)
  /-- A code block with a fence of `mark`, `length` times, after `indent` blanks. -/
  | fenced (mark : Char) (length indent : Nat)
  /-- A code block by indentation. -/
  | indented
  | html (kind : HtmlKind)
  | rule
  | table

namespace OpenKind

/-- Whether a block may hold a block of a kind. -/
def canContain : OpenKind → OpenKind → Bool
  | .list _, .item _ => true
  | .list _, _ => false
  | .document, .item _ => false
  | .document, _ => true
  | .quote, .item _ => false
  | .quote, _ => true
  | .item _, .item _ => false
  | .item _, _ => true
  | _, _ => false

/-- Whether a block takes lines of text itself. -/
def acceptsLines : OpenKind → Bool
  | .paragraph _ => true
  | .heading _ => true
  | .fenced _ _ _ => true
  | .indented => true
  | _ => false

/-- Whether a block takes every line as it stands. -/
def isVerbatim : OpenKind → Bool
  | .fenced _ _ _ => true
  | .indented => true
  | .html _ => true
  | _ => false

/-- Whether a block is a paragraph. -/
def isParagraph : OpenKind → Bool
  | .paragraph _ => true
  | _ => false

end OpenKind

/-- A block that may still grow. -/
structure OpenBlock where
  kind : OpenKind
  firstLine : Nat
  /-- Its own lines of text, the latest first. -/
  lines : List (List Char) := []
  /-- The finished blocks inside it, the latest first. -/
  children : List Block := []

/-- How a line continues an open block. -/
inductive Continuation where
  /-- It belongs to the block; the cursor is past the block's marker. -/
  | within (cur : Cursor)
  | outside
  /-- It is the fence that closes the block. -/
  | closing

/-- Past at most `n` columns of spaces and tabs. -/
def skipBlanksUpTo : Nat → Cursor → Cursor
  | 0, cur => cur
  | n + 1, cur =>
    match cur.rest with
    | c :: _ => if isSpaceOrTab c then skipBlanksUpTo n cur.skipColumn else cur
    | [] => cur

namespace OpenBlock

/-- The same block with one more line. -/
def addLine (block : OpenBlock) (line : List Char) : OpenBlock :=
  { block with lines := line :: block.lines }

/-- The text of a block, each line with a line feed. -/
def text (block : OpenBlock) : List Char :=
  block.lines.reverse.flatMap (· ++ ['\n'])

/-- Whether and how a line continues a block; `hasChild` tells whether the block has one, open
or finished. -/
def continues (block : OpenBlock) (hasChild : Bool) (cur : Cursor) : Continuation :=
  match block.kind with
  | .document => .within cur
  | .list _ => .within cur
  | .rule => .within cur
  | .heading _ => .outside
  | .quote =>
    if cur.indent ≤ 3 && cur.text.head? == some '>' then
      .within (skipBlanksUpTo 1 (cur.skipColumns (cur.indent + 1)))
    else .outside
  | .item width =>
    if width ≤ cur.indent then .within (cur.skipColumns width)
    else if cur.isBlank && hasChild then .within cur.skipIndent
    else .outside
  | .paragraph _ => if cur.isBlank then .outside else .within cur
  | .fenced mark length indent =>
    if cur.indent ≤ 3 && closesFence mark length cur.text then .closing
    else .within (skipBlanksUpTo indent cur)
  | .indented =>
    if 4 ≤ cur.indent then .within (cur.skipColumns 4)
    else if cur.isBlank then .within cur.skipIndent
    else .outside
  | .html kind => if kind.endsAtBlank && cur.isBlank then .outside else .within cur
  | .table => if 0 < cellCount cur.text then .within cur else .outside

/-- The finished block, its last line being `lastLine`. A paragraph of link definitions alone
is no block. -/
def finish (block : OpenBlock) (lastLine : Nat) : Option Block :=
  let finished (kind : BlockKind) : Option Block :=
    some (.node kind block.firstLine lastLine block.children.reverse)
  match block.kind with
  | .document => none
  | .quote => finished .quote
  | .list _ => finished .list
  | .item _ => finished .item
  | .paragraph _ =>
    if onlySpaces ((dropDefinitions block.text).takeWhile (· != '\n')) then none
    else finished .paragraph
  | .heading level => finished (.heading level)
  | .fenced _ _ _ =>
    match block.lines.reverse with
    | [] => finished (.code true [] [])
    | info :: lines =>
      let decoded := Text.trimWhere isAsciiSpace (decodeEntities info)
      finished (.code true (unescape decoded) lines)
  | .indented => finished (.code false [] (block.lines.dropWhile onlySpaces).reverse)
  | .html _ => finished .html
  | .rule => finished .rule
  | .table => finished .table

end OpenBlock

/-- When a block is closed. -/
inductive Closing where
  /-- While a line is read. -/
  | onLine (line : Nat)
  /-- At the end of a text of so many lines. -/
  | atEnd (lineCount : Nat)

/-- The last line of a block. While a line is read that line is not part of a block that ends,
except for the fence of a code block. -/
def Closing.lastLine (closing : Closing) (kind : OpenKind) : Nat :=
  match closing, kind with
  | .atEnd n, _ => n
  | .onLine n, .fenced _ _ _ => n
  | .onLine n, _ => n - 1

/-- The chain with its innermost block finished and put into the block around it. -/
def closeHead (closing : Closing) : List OpenBlock → List OpenBlock
  | block :: outer :: rest =>
    let finished := block.finish (closing.lastLine block.kind)
    { outer with children := finished.toList ++ outer.children } :: rest
  | chain => chain

/-- The chain with its `n` innermost blocks finished. -/
def closeHeads (closing : Closing) : Nat → List OpenBlock → List OpenBlock
  | 0, chain => chain
  | n + 1, chain => closeHeads closing n (closeHead closing chain)

/-- The chain closed down to a block that may hold a block of a kind; at most `n` are closed. -/
def closeUnder (closing : Closing) (kind : OpenKind) : Nat → List OpenBlock → List OpenBlock
  | 0, chain => chain
  | n + 1, chain =>
    match chain with
    | block :: _ =>
      if block.kind.canContain kind then chain
      else closeUnder closing kind n (closeHead closing chain)
    | [] => []

/-- The chain with a new innermost block that begins on `line`. -/
def openChild (line : Nat) (kind : OpenKind) (chain : List OpenBlock) : List OpenBlock :=
  { kind, firstLine := line } :: closeUnder (.onLine line) kind chain.length chain

end Markdown
end DocModel

import DocModel.Markdown.OpenBlock

/-!
# DocModel.Markdown.Document

From a text to its blocks, line by line. Each line is first matched against the open blocks from
the outermost inwards, then new blocks are opened in the innermost one that matched, and last
its text goes to the innermost open block.

* `bodyLines` cuts a text into lines at line feeds, carriage returns and pairs of them;
* `readLine` takes one line into account;
* `blocks` is the result for a whole text.
-/

namespace DocModel
namespace Markdown

/-- The lines of a text without their terminators: a line feed, a carriage return or both in
this order. Nothing after the last terminator is no line. -/
def bodyLines : List Char → List (List Char)
  | [] => []
  | '\r' :: '\n' :: rest => [] :: bodyLines rest
  | '\r' :: rest => [] :: bodyLines rest
  | '\n' :: rest => [] :: bodyLines rest
  | c :: rest =>
    match rest, bodyLines rest with
    | [], _ => [[c]]
    | _, [] => [[c]]
    | _, line :: lines => (c :: line) :: lines

/-- How far the reading of a line has come. -/
structure LineState where
  /-- The open blocks that the line belongs to, innermost first. -/
  chain : List OpenBlock
  /-- Open blocks inside them that it does not belong to, outermost first. They are closed
  unless the line continues a paragraph without its markers. -/
  pending : List OpenBlock
  cur : Cursor
  /-- Whether the line may continue the innermost paragraph without its markers. -/
  mayBeLazy : Bool

namespace LineState

/-- The chain once the pending blocks are closed. -/
def settled (state : LineState) (line : Nat) : List OpenBlock :=
  closeHeads (.onLine line) state.pending.length (state.pending.reverse ++ state.chain)

/-- A new block opened in the innermost block of the chain. -/
def opened (state : LineState) (line : Nat) (kind : OpenKind) (cur : Cursor) : LineState :=
  { chain := openChild line kind (state.settled line), pending := [], cur, mayBeLazy := false }

end LineState

/-- What the open blocks make of a line. -/
inductive Descent where
  /-- The line is still to be read. -/
  | reached (state : LineState)
  /-- The line was the fence of a code block; this is the chain around it and the block. -/
  | fenced (chain : List OpenBlock)

/-- The blocks matched so far are `chain`; those still to be matched come outermost first. -/
def descend (chain : List OpenBlock) : List OpenBlock → Cursor → Descent
  | [], cur => .reached { chain, pending := [], cur, mayBeLazy := false }
  | block :: inner, cur =>
    match block.continues (!block.children.isEmpty || !inner.isEmpty) cur with
    | .within next => descend (block :: chain) inner next
    | .outside => .reached { chain, pending := block :: inner, cur, mayBeLazy := false }
    | .closing => .fenced (block :: chain)

/-- What the next marker of a line did. -/
inductive Step where
  | done
  /-- It opened a block; look for another one inside. -/
  | opened (state : LineState)
  /-- It opened a block that takes the rest of the line. -/
  | last (state : LineState)

/-- The place of an item's content and the columns that later lines need, for a marker of
`length` characters. -/
def itemContent (cur : Cursor) (length : Nat) : Cursor × Nat :=
  let marked := cur.skipIndent.skipChars length
  let spaced := skipBlanksUpTo 6 marked
  let gap := spaced.column - marked.column
  if gap < 1 || 5 ≤ gap || spaced.rest.isEmpty then
    (if 0 < gap then marked.skipColumn else marked, cur.indent + length + 1)
  else (spaced, cur.indent + length + gap)

/-- A list item opened, in a new list unless the innermost block is a list of its marker. -/
def openItem (state : LineState) (line : Nat) (marker : ListMarker) (length : Nat) : LineState :=
  let (content, width) := itemContent state.cur length
  let sameList := match state.chain with
    | { kind := .list other, .. } :: _ => other == marker
    | _ => false
  if sameList then state.opened line (.item width) content
  else (state.opened line (.list marker) content).opened line (.item width) content

/-- A paragraph that a line of hyphens or equals signs ends: a heading, unless it holds nothing
but link definitions. -/
def underline (state : LineState) (paragraph : OpenBlock) (outer : List OpenBlock)
    (level : Nat) : LineState :=
  let text := dropDefinitions paragraph.text
  if onlySpaces (text.takeWhile (· != '\n')) then
    { state with chain := { paragraph with lines := [] } :: outer }
  else
    { state with chain := { paragraph with kind := .heading level } :: outer,
                 cur := state.cur.skipAll }

/-- A paragraph whose last line heads a table: the lines before it stay a paragraph. -/
def openTable (state : LineState) (paragraph : OpenBlock) (outer : List OpenBlock) : LineState :=
  let before := paragraph.lines.length - 1
  let first := paragraph.firstLine
  let preface : List Block :=
    if before == 0 then [] else [.node .paragraph first (first + before - 1) []]
  let around := match outer with
    | block :: rest => { block with children := preface ++ block.children } :: rest
    | [] => []
  { state with chain := { kind := .table, firstLine := first + before } :: around,
               cur := state.cur.skipAll }

/-- What a row of a table does, as its head or as a later row. -/
def tableStep (state : LineState) : Step :=
  match state.chain with
  | paragraph@{ kind := .paragraph false, .. } :: outer =>
    if isDelimiterRow state.cur.text then
      let cells := match paragraph.lines with
        | head :: _ => cellCount head
        | [] => 0
      if cells == cellCount state.cur.text && 0 < cells then
        .opened (openTable state paragraph outer)
      else
        .last { state with chain := { paragraph with kind := .paragraph true } :: outer }
    else .done
  | { kind := .table, .. } :: _ =>
    if state.cur.isBlank then .done else .opened { state with cur := state.cur.skipAll }
  | _ => .done

/-- A line may open lists only among its first so many markers. -/
def maxListDepth : Nat := 99

/-- What the next marker of a line does, after `depth` others. -/
def openStep (state : LineState) (line depth : Nat) : Step :=
  let cur := state.cur
  let text := cur.text
  let inParagraph := match state.chain with
    | block :: _ => block.kind.isParagraph
    | [] => false
  if 4 ≤ cur.indent then
    if !state.mayBeLazy && !cur.isBlank then
      .last (state.opened line .indented (cur.skipColumns 4))
    else .done
  else if text.head? == some '>' then
    .opened (state.opened line .quote (skipBlanksUpTo 1 (cur.skipIndent.skipChars 1)))
  else
    match headingLevel? text with
    | some level => .last (state.opened line (.heading level) cur.skipAll)
    | none =>
      match openingFence? text with
      | some (mark, length) =>
        .last (state.opened line (.fenced mark length cur.indentChars)
          (cur.skipIndent.skipChars length))
      | none =>
        match openingKind? inParagraph text with
        | some kind => .opened (state.opened line (.html kind) cur)
        | none =>
          match underlineLevel? text, state.chain with
          | some level, paragraph@{ kind := .paragraph _, .. } :: outer =>
            .last (underline state paragraph outer level)
          | _, _ =>
            if isRule text then .opened (state.opened line .rule cur.skipAll)
            else
              match listMarker? inParagraph text, decide (depth < maxListDepth) with
              | some (marker, length), true => .opened (openItem state line marker length)
              | _, _ => tableStep state

/-- Every block that a line opens after `depth` others, at most `n` of them one inside the
other. -/
def openBlocks (line : Nat) : Nat → Nat → LineState → LineState
  | 0, _, state => state
  | n + 1, depth, state =>
    match state.chain with
    | [] => state
    | block :: _ =>
      if block.kind.isVerbatim then state
      else
        match openStep state line depth with
        | .done => state
        | .opened next => openBlocks line n (depth + 1) { next with mayBeLazy := false }
        | .last next => next

/-- The chain with the rest of a line added to its innermost block, or to a new paragraph. -/
def addText (line : Nat) (cur : Cursor) : List OpenBlock → List OpenBlock
  | [] => []
  | block :: outer =>
    match block.kind with
    | .fenced _ _ _ => block.addLine cur.content :: outer
    | .indented => block.addLine cur.content :: outer
    | .html kind =>
      let chain := block.addLine cur.content :: outer
      if kind.endsOn cur.text then closeHead (.onLine line) chain else chain
    | kind =>
      if cur.isBlank then block :: outer
      else if kind.acceptsLines then block.addLine cur.text :: outer
      else
        match openChild line (.paragraph false) (block :: outer) with
        | paragraph :: rest => paragraph.addLine cur.text :: rest
        | [] => []

/-- The chain after the text of a line, once its markers are read. -/
def finishLine (line : Nat) (state : LineState) : List OpenBlock :=
  match state.pending.reverse with
  | innermost :: others =>
    if innermost.kind.isParagraph && !state.cur.isBlank then
      innermost.addLine state.cur.content :: (others ++ state.chain)
    else addText line state.cur (state.settled line)
  | [] => addText line state.cur state.chain

/-- The open blocks, innermost first, after one more line. -/
def readLine (chain : List OpenBlock) (line : Nat) (text : List Char) : List OpenBlock :=
  match chain.reverse with
  | [] => []
  | document :: blocks =>
    match descend [document] blocks { rest := text } with
    | .fenced inner => closeHead (.onLine line) inner
    | .reached state =>
      let mayBeLazy := match chain with
        | block :: _ => block.kind.isParagraph
        | [] => false
      finishLine line (openBlocks line (text.length + 1) 0 { state with mayBeLazy })

/-- The open blocks after more lines, the first of which has the number `line`. -/
def readLines (chain : List OpenBlock) (line : Nat) : List (List Char) → List OpenBlock
  | [] => chain
  | text :: more => readLines (readLine chain line text) (line + 1) more

/-- A text without the byte order mark at its head, and with the replacement character for each
null. -/
def cleaned (text : List Char) : List Char :=
  let body := match text with
    | '\uFEFF' :: rest => rest
    | _ => text
  body.map fun c => if c == '\x00' then '\uFFFD' else c

def blocks (text : List Char) : List Block :=
  let lines := bodyLines (cleaned text)
  let chain := readLines [{ kind := .document, firstLine := 1 }] 1 lines
  match (closeHeads (.atEnd lines.length) (chain.length - 1) chain) with
  | document :: _ => document.children.reverse
  | [] => []

end Markdown
end DocModel

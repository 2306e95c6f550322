import DocModel.Markdown.Document
import DocModel.Source.LineTable
import DocModel.Unicode.Alphanumeric

/-!
# DocModel.Dialect.Block

The blocks of a document as the dialect reads them. The markdown structure tells which lines a
block covers; its text is taken from those lines as they are written, because the dialect gives
a meaning to marks that markdown would consume.

* `bareHeading` and `bulletText` take the text of a heading and of a bullet;
* `ofMarkdown` reads one block off the lines of a document.
-/

namespace DocModel
namespace Dialect

open Text Unicode

/-- A bullet: the text after its marker, its line, and the bullets nested in it. -/
inductive ListItem where
  | mk (text : String) (line : Nat) (children : List ListItem)
  deriving Repr

namespace ListItem

def text : ListItem → String
  | mk text _ _ => text

def line : ListItem → Nat
  | mk _ line _ => line

/-- The bullets nested in this one. -/
def children : ListItem → List ListItem
  | mk _ _ children => children

mutual

/-- Whether two bullets are the same, down to the bullets nested in them. -/
def decEq : (a b : ListItem) → Decidable (a = b)
  | mk text line children, mk text' line' children' =>
    have := decEqAll children children'
    decidable_of_iff (text = text' ∧ line = line' ∧ children = children')
      (mk.injEq .. ▸ Iff.rfl)

def decEqAll : (as bs : List ListItem) → Decidable (as = bs)
  | [], [] => isTrue rfl
  | [], _ :: _ => isFalse nofun
  | _ :: _, [] => isFalse nofun
  | a :: as, b :: bs =>
    have := decEq a b
    have := decEqAll as bs
    decidable_of_iff (a = b ∧ as = bs) (List.cons.injEq .. ▸ Iff.rfl)

end

instance : DecidableEq ListItem := decEq

end ListItem

/-- What a block holds. -/
inductive BlockContent where
  | heading (level : Nat) (text : String)
  /-- A paragraph; its lines are trimmed. -/
  | paragraph (text : String)
  | list (items : List ListItem)
  /-- A code block: its info text and its lines with their numbers. -/
  | code (info : String) (lines : List (Nat × String))
  /-- A quotation, a table, a rule or raw HTML. -/
  | other
  deriving DecidableEq, Repr

/-- A block and the lines it covers. -/
structure Block where
  content : BlockContent
  startLine : Nat
  endLine : Nat
  deriving Repr

/-- The text of a heading without its marks. Marks at the end count only after a space. -/
def bareHeading (line : List Char) : List Char :=
  let trimmed := trim line
  if trimmed.head? != some '#' then trimmed
  else
    let text := trim (trimmed.dropWhile (· == '#'))
    let bare := dropEndWhile (· == '#') text
    if bare.length != text.length && bare.getLast? == some ' ' then trimEnd bare
    else if bare.isEmpty then []
    else text

/-- What follows the marker of a bullet: a bullet mark, or digits and a dot or parenthesis, and
then white space or the end. -/
def afterListMarker? (text : List Char) : Option (List Char) :=
  let finish (rest : List Char) : Option (List Char) :=
    match rest with
    | [] => some []
    | c :: _ => if isWhiteSpace c then some rest else none
  match text with
  | [] => none
  | c :: rest =>
    if c == '-' || c == '*' || c == '+' then finish rest
    else if isDecimal c then
      match rest.dropWhile isDecimal with
      | d :: more => if d == '.' || d == ')' then finish more else none
      | [] => none
    else none

/-- The text of a bullet after its marker. -/
def bulletText (line : List Char) : List Char :=
  let text := trimStart line
  trim ((afterListMarker? text).getD text)

mutual

/-- The items of a list, and the lists inside them, `offset` lines into the document. -/
def itemsOf (table : LineTable) (offset : Nat) : List Markdown.Block → List ListItem
  | [] => []
  | .node _ first _ children :: more =>
    let line := first + offset
    .mk (String.ofList (bulletText (table.textOf line))) line
      (nestedItems table offset children) :: itemsOf table offset more

/-- The items of the lists among the blocks of an item. -/
def nestedItems (table : LineTable) (offset : Nat) : List Markdown.Block → List ListItem
  | [] => []
  | .node kind _ _ children :: more =>
    (match kind with
      | .list => itemsOf table offset children
      | _ => []) ++ nestedItems table offset more

end

/-- The block of the dialect that a markdown block is, `offset` lines into the document. -/
def Block.ofMarkdown (table : LineTable) (offset : Nat) (block : Markdown.Block) : Block :=
  let startLine := block.firstLine + offset
  let endLine := block.lastLine + offset
  let content :=
    match block.kind with
    | .heading level =>
      .heading level (String.ofList (bareHeading (table.textOf startLine)))
    | .paragraph =>
      let covered := List.range' startLine (endLine + 1 - startLine)
      .paragraph (String.ofList (joinWith ['\n'] (covered.map (trim <| table.textOf ·))))
    | .list => .list (itemsOf table offset block.children)
    | .code fenced info lines =>
      let first := if fenced then startLine + 1 else startLine
      .code (String.ofList (trim info))
        (lines.zipIdx.map fun (line, i) => (first + i, String.ofList line))
    | _ => .other
  { content, startLine, endLine }

/-- The blocks of the markdown text `body`, which stands `offset` lines into a document. -/
def blocksOf (table : LineTable) (offset : Nat) (body : List Char) : List Block :=
  (Markdown.blocks body).map (Block.ofMarkdown table offset)

end Dialect
end DocModel

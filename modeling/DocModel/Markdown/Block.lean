/-!
# DocModel.Markdown.Block

The block structure of a markdown text: a tree of blocks, each with the lines it covers.
-/

namespace DocModel
namespace Markdown

/-- What a block is. -/
inductive BlockKind where
  /-- A heading of a level from one to six. -/
  | heading (level : Nat)
  | paragraph
  /-- A list; its children are items. -/
  | list
  /-- An item of a list. -/
  | item
  /-- A code block, with a fence or by indentation, and its lines. -/
  | code (fenced : Bool) (info : List Char) (lines : List (List Char))
  | quote
  | html
  | rule
  | table
  deriving DecidableEq, Repr

/-- A block and the blocks inside it. -/
inductive Block where
  /-- A block of a kind, its first and last line, and its children. -/
  | node (kind : BlockKind) (firstLine lastLine : Nat) (children : List Block)

namespace Block

def kind : Block → BlockKind
  | node kind _ _ _ => kind

/-- The line where a block begins. -/
def firstLine : Block → Nat
  | node _ first _ _ => first

/-- The line where a block ends; never before its first. -/
def lastLine : Block → Nat
  | node _ first last _ => max first last

def children : Block → List Block
  | node _ _ _ children => children

end Block
end Markdown
end DocModel

import DocModel.Dialect.Block

/-!
# DocModel.Dialect.Section

The sections of a document that define something. A heading of level three opens one; the next
heading of level two or three, or the end, closes it. Headings of other levels change nothing.

* `sectionsOf` finds the sections;
* `titleOf` finds the title: the first heading of level one that has a text.
-/

namespace DocModel
namespace Dialect

/-- A section with the blocks that matter in it. -/
structure Section where
  /-- The text of its heading. -/
  name : String
  /-- The line of its heading. -/
  line : Nat
  /-- The paragraphs before its first list or code block. -/
  paragraphs : List String := []
  lists : List (List ListItem) := []
  /-- The lines of its code blocks. -/
  codeBlocks : List (List (Nat × String)) := []

namespace Section

/-- Whether a paragraph still belongs to the description. -/
def isDescribed (s : Section) : Bool := s.lists.isEmpty && s.codeBlocks.isEmpty

/-- Whether the section defines an enumeration: it has a code block and no list. -/
def isEnumeration (s : Section) : Bool := s.lists.isEmpty && !s.codeBlocks.isEmpty

/-- The section with one more block. -/
def add (s : Section) (block : Block) : Section :=
  match block.content with
  | .paragraph text => if s.isDescribed then { s with paragraphs := s.paragraphs ++ [text] } else s
  | .list items => { s with lists := s.lists ++ [items] }
  | .code _ lines => { s with codeBlocks := s.codeBlocks ++ [lines] }
  | .heading _ _ => s
  | .other => s

/-- The description: the paragraphs with an empty line between them. -/
def description (s : Section) : String :=
  Text.onChars Text.trim (String.intercalate "\n\n" s.paragraphs)

end Section

/-- The sections of a sequence of blocks that comes after the open section `current`. -/
def sectionsAfter (current : Option Section) : List Block → List Section
  | [] => current.toList
  | block :: rest =>
    match block.content with
    | .heading 2 _ => current.toList ++ sectionsAfter none rest
    | .heading 3 name =>
      current.toList ++ sectionsAfter (some { name, line := block.startLine }) rest
    | _ => sectionsAfter (current.map (·.add block)) rest

/-- The sections of a sequence of blocks. -/
def sectionsOf (blocks : List Block) : List Section := sectionsAfter none blocks

/-- The title of a sequence of blocks. -/
def titleOf (blocks : List Block) : Option String :=
  blocks.findSome? fun block =>
    match block.content with
    | .heading 1 text => if text.isEmpty then none else some text
    | _ => none

end Dialect
end DocModel

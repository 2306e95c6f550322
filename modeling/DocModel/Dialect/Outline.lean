import DocModel.Dialect.Document

/-!
# DocModel.Dialect.Outline

The table of contents of a document: its headings down to level three. A document whose front
matter is broken has none.
-/

namespace DocModel
namespace Dialect

/-- A heading in the table of contents. -/
structure OutlineHeading where
  level : Nat
  text : String
  line : Nat
  deriving DecidableEq, Repr

/-- The entry of a block, if it is a heading of a level up to three. -/
def OutlineHeading.ofBlock? (block : Block) : Option OutlineHeading :=
  match block.content with
  | .heading level text => if level ≤ 3 then some { level, text, line := block.startLine } else none
  | _ => none

/-- The table of contents of a document. -/
def outline (source : String) : List OutlineHeading :=
  match Document.ofSource source.toList with
  | .ok document => document.blocks.filterMap OutlineHeading.ofBlock?
  | .error _ => []

end Dialect
end DocModel

import DocModel.Dialect.Block
import DocModel.Dialect.FrontMatter

/-!
# DocModel.Dialect.Document

A document as the dialect reads it: the settings of its front matter, and its blocks. The numbers
of the lines count from the first line of the document, front matter included.
-/

namespace DocModel
namespace Dialect

/-- A document cut into blocks. -/
structure Document where
  config : Config
  /-- The first and the last line of the front matter. -/
  frontMatter : Option (Nat × Nat)
  blocks : List Block

def Document.ofSource (source : List Char) : Except FrontMatterError Document := do
  let parts ← partsOf source
  let config ← match parts.front with
    | some front => front.config
    | none => .ok {}
  return {
    config
    frontMatter := parts.front.map fun front => (FrontMatter.startLine, front.endLine)
    blocks := blocksOf (LineTable.ofSource source) parts.offset parts.body }

end Dialect
end DocModel

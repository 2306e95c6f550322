/-!
# DocModel.Source.Position

Places in the text of a document. Lines and columns count from one, and columns count
characters; offsets count the bytes of the whole text in UTF-8. Every end is exclusive.
-/

namespace DocModel

/-- A half-open interval. -/
structure Span where
  /-- First place inside. -/
  start : Nat := 0
  /-- First place after. -/
  stop : Nat := 0
  deriving DecidableEq, Repr, Inhabited

/-- A stretch of one line of a document. -/
structure SourcePosition where
  line : Nat := 0
  /-- Its columns in that line. -/
  column : Span := {}
  /-- Its bytes in the whole text. -/
  offset : Span := {}
  deriving DecidableEq, Repr, Inhabited

end DocModel

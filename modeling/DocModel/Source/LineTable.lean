import DocModel.Source.Position
import DocModel.Text.Basic

/-!
# DocModel.Source.LineTable

The lines of a document with the byte offset at which each begins, to turn line numbers into
places. A line ends at a line feed; a carriage return before it is not part of the text.

* `textOf` and `startOf` answer for every number, also outside the document;
* `positionOfBytes` cuts a byte range of a line back to whole characters;
* `positionOf` covers a line without the white space around it.
-/

namespace DocModel

open Text

/-- A line without its line feed, and where it begins. -/
structure PlacedLine where
  /-- Byte offset of its first character. -/
  start : Nat
  /-- Its characters, a final carriage return included. -/
  raw : List Char

/-- The lines of a document. -/
structure LineTable where
  /-- The lines in order; there is always at least one. -/
  lines : Array PlacedLine
  /-- The length of the whole text in bytes. -/
  size : Nat

namespace LineTable

/-- The pieces of a text, the first of which begins at `start`. -/
def placedFrom (start : Nat) : List (List Char) → List PlacedLine
  | [] => []
  | piece :: pieces => ⟨start, piece⟩ :: placedFrom (start + byteLength piece + 1) pieces

def ofSource (source : List Char) : LineTable :=
  { lines := (placedFrom 0 (splitOn '\n' source)).toArray, size := byteLength source }

/-- The line with a number, counted from one. -/
def line? (table : LineTable) : Nat → Option PlacedLine
  | 0 => none
  | n + 1 => table.lines[n]?

/-- How many lines there are; nothing after the last line feed is no line. -/
def count (table : LineTable) : Nat :=
  match table.lines.back? with
  | some last =>
    if last.raw.isEmpty && table.lines.size > 1 then table.lines.size - 1 else table.lines.size
  | none => 0

/-- The text of a line without its terminator; empty outside the document. -/
def textOf (table : LineTable) (n : Nat) : List Char :=
  match table.line? n with
  | some line => chopReturn line.raw
  | none => []

/-- Where a line begins; past the last line this is the end of the text. -/
def startOf (table : LineTable) (n : Nat) : Nat :=
  if n == 0 then 0
  else
    match table.line? n with
    | some line => line.start
    | none => table.size

/-- The longest beginning of a text within a number of bytes. -/
def prefixWithin : Nat → List Char → List Char
  | _, [] => []
  | n, c :: rest => if c.utf8Size ≤ n then c :: prefixWithin (n - c.utf8Size) rest else []

/-- The place of the bytes from `start` to `stop` of a line. Both are cut back to the beginning
of a character and to the end of the line, and `stop` is at least `start`. -/
def positionOfBytes (table : LineTable) (line start stop : Nat) : SourcePosition :=
  let text := table.textOf line
  let before := prefixWithin start text
  let from_ := byteLength before
  let through := prefixWithin (max stop from_) text
  let base := table.startOf line
  { line
    column := ⟨before.length + 1, through.length + 1⟩
    offset := ⟨base + from_, base + byteLength through⟩ }

/-- The place of what a line shows: without the white space at its ends. A line of white space
alone is the empty stretch at its end. -/
def positionOf (table : LineTable) (n : Nat) : SourcePosition :=
  let text := table.textOf n
  let indent := byteLength (text.takeWhile Unicode.isWhiteSpace)
  table.positionOfBytes n indent (max (byteLength (trimEnd text)) indent)

end LineTable
end DocModel

import DocModel.Markdown.Cursor
import DocModel.Text.Basic

/-!
# DocModel.Markdown.Table

The rows of a table: cells between pipes. A pipe right after a backslash belongs to its cell,
and a pipe at either end of the row adds no cell.
-/

namespace DocModel
namespace Markdown

open Text

def isCellSpace (c : Char) : Bool := isSpaceOrTab c || c == '\x0b' || c == '\x0c'

/-- Where the reading of a row stands. -/
inductive RowState where
  /-- After a pipe and blanks. -/
  | afterPipe
  /-- Inside a cell; whether its last character is a backslash. -/
  | inCell (escaping : Bool)

/-- The number of cells that the rest of a row adds. -/
def cellsFrom : RowState → List Char → Nat
  | .afterPipe, [] => 0
  | .inCell _, [] => 1
  | .afterPipe, c :: rest =>
    if isCellSpace c then cellsFrom .afterPipe rest
    else if c == '|' then 1 + cellsFrom .afterPipe rest
    else cellsFrom (.inCell (c == '\\')) rest
  | .inCell escaping, c :: rest =>
    if c == '|' && !escaping then 1 + cellsFrom .afterPipe rest
    else cellsFrom (.inCell (c == '\\')) rest

/-- The number of cells of a row. -/
def cellCount : List Char → Nat
  | [] => 0
  | '|' :: rest => cellsFrom .afterPipe rest
  | row => cellsFrom (.inCell false) row

/-- Whether a cell of the row under the heads is a run of hyphens, with a colon at either end or
not. -/
def isDelimiterCell (cell : List Char) : Bool :=
  let bare := trimWhere isCellSpace cell
  let body := match bare with
    | ':' :: rest => rest
    | _ => bare
  let dashes := match body.getLast? with
    | some ':' => body.dropLast
    | _ => body
  !dashes.isEmpty && dashes.all (· == '-')

/-- Whether a line is the row under the heads of a table. -/
def isDelimiterRow (text : List Char) : Bool :=
  let pieces := splitOn '|' text
  let opened := match pieces with
    | [] :: more => more
    | _ => pieces
  let cells := match opened.getLast? with
    | some last => if 1 < opened.length && last.all isCellSpace then opened.dropLast else opened
    | none => []
  !cells.isEmpty && cells.all isDelimiterCell

end Markdown
end DocModel

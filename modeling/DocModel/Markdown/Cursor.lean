/-!
# DocModel.Markdown.Cursor

A place in one line of a document while its block structure is read.

Indentation is measured in columns: a tab reaches to the next multiple of four. A block marker
may take only some of the columns of a tab; the columns that are left belong to what follows.

* `skipColumns` moves by columns and may stop inside a tab;
* `skipChars` moves by characters;
* `indent` and `text` look past the white space without moving.
-/

namespace DocModel
namespace Markdown

def isSpaceOrTab (c : Char) : Bool := c == ' ' || c == '\t'

def isAsciiSpace (c : Char) : Bool :=
  isSpaceOrTab c || c == '\n' || c == '\r' || c == '\x0b' || c == '\x0c'

def isPunctuation (c : Char) : Bool :=
  c.toNat < 0x80 && 0x20 < c.toNat && c.toNat != 0x7F && !c.isAlphanum

/-- Columns from `column` to the next tab stop. -/
def toTabStop (column : Nat) : Nat := 4 - column % 4

/-- A place in a line. -/
structure Cursor where
  /-- The characters that follow; the end of the list is the end of the line. -/
  rest : List Char
  column : Nat := 0
  /-- Whether some columns of the tab at the head of `rest` are used up. -/
  insideTab : Bool := false

namespace Cursor

def skipColumn (cur : Cursor) : Cursor :=
  match cur.rest with
  | [] => cur
  | c :: rest =>
    if c == '\t' && 1 < toTabStop cur.column then
      { cur with column := cur.column + 1, insideTab := true }
    else { rest, column := cur.column + 1 }

def skipColumns : Nat → Cursor → Cursor
  | 0, cur => cur
  | n + 1, cur => skipColumns n cur.skipColumn

def skipChar (cur : Cursor) : Cursor :=
  match cur.rest with
  | [] => cur
  | c :: rest =>
    { rest, column := cur.column + if c == '\t' then toTabStop cur.column else 1 }

def skipChars : Nat → Cursor → Cursor
  | 0, cur => cur
  | n + 1, cur => skipChars n cur.skipChar

def skipAll (cur : Cursor) : Cursor := { cur with rest := [], insideTab := false }

/-- The column reached from `column` over the spaces and tabs at the head of a text. -/
def columnAfterBlanks (column : Nat) : List Char → Nat
  | [] => column
  | c :: rest =>
    if c == ' ' then columnAfterBlanks (column + 1) rest
    else if c == '\t' then columnAfterBlanks (column + toTabStop column) rest
    else column

/-- What follows the spaces and tabs ahead. -/
def text (cur : Cursor) : List Char := cur.rest.dropWhile isSpaceOrTab

/-- The columns of white space ahead. -/
def indent (cur : Cursor) : Nat := columnAfterBlanks cur.column cur.rest - cur.column

/-- Whether only white space is ahead. -/
def isBlank (cur : Cursor) : Bool := cur.text.isEmpty

def skipIndent (cur : Cursor) : Cursor :=
  { rest := cur.text, column := columnAfterBlanks cur.column cur.rest }

/-- The characters of white space ahead. -/
def indentChars (cur : Cursor) : Nat := (cur.rest.takeWhile isSpaceOrTab).length

/-- What is ahead, with the unused columns of a tab as spaces. -/
def content (cur : Cursor) : List Char :=
  if cur.insideTab then List.replicate (toTabStop cur.column) ' ' ++ cur.rest.drop 1
  else cur.rest

end Cursor
end Markdown
end DocModel

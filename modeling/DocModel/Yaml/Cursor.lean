import DocModel.Yaml.Problem

/-!
# DocModel.Yaml.Cursor

A place in a YAML text while it is read. Of the characters that end a line, those that mean
nothing more are made line feeds before.

* `cleaned` does so and refuses characters that no text may hold;
* `Cursor` is the rest of a text with its place; `drop` and `skipWhile` move on.
-/

namespace DocModel
namespace Yaml

/-- A character that ends a line. -/
def isBreak (c : Char) : Bool := c == '\n' || c == '\u2028' || c == '\u2029'

def isBlank (c : Char) : Bool := c == ' ' || c == '\t'

/-- A space, a tab or the end of a line. -/
def isSpacing (c : Char) : Bool := isBlank c || isBreak c

/-- A letter, a digit, a hyphen or an underscore. -/
def isNameChar (c : Char) : Bool := c.isAlphanum || c == '-' || c == '_'

/-- Whether a text may hold a character. -/
def isAllowed (c : Char) : Bool :=
  let n := c.toNat
  n == 0x09 || n == 0x0A || n == 0x0D || (0x20 ≤ n && n ≤ 0x7E) || n == 0x85
    || (0xA0 ≤ n && n ≤ 0xFFFD) || 0x10000 ≤ n

/-- The first character that no text may hold, with the number of bytes before it. -/
def forbidden? (offset : Nat) : List Char → Option Nat
  | [] => none
  | c :: rest => if isAllowed c then forbidden? (offset + c.utf8Size) rest else some offset

/-- A text with line feeds for carriage returns, for pairs of both, and for next line. -/
def withLineFeeds : List Char → List Char
  | [] => []
  | '\r' :: '\n' :: rest => '\n' :: withLineFeeds rest
  | c :: rest => (if c == '\r' || c == '\u0085' then '\n' else c) :: withLineFeeds rest

/-- A place in a text. -/
structure Cursor where
  rest : List Char
  mark : Mark := {}

def Mark.after (m : Mark) (c : Char) : Mark :=
  if isBreak c then { line := m.line + 1, column := 0 } else { m with column := m.column + 1 }

namespace Cursor

def drop (cur : Cursor) (n : Nat) : Cursor :=
  { rest := cur.rest.drop n, mark := (cur.rest.take n).foldl Mark.after cur.mark }

/-- The characters ahead that satisfy `p`. -/
def ahead (cur : Cursor) (p : Char → Bool) : List Char := cur.rest.takeWhile p

/-- Past the characters ahead that satisfy `p`. -/
def skipWhile (cur : Cursor) (p : Char → Bool) : Cursor := cur.drop (cur.ahead p).length

/-- The character `n` places ahead. -/
def peek (cur : Cursor) (n : Nat) : Option Char := cur.rest[n]?

/-- Whether `c` is `n` places ahead. -/
def looksAt (cur : Cursor) (n : Nat) (c : Char) : Bool := cur.peek n == some c

/-- Whether spacing or the end of the text is `n` places ahead. -/
def spacingAt (cur : Cursor) (n : Nat) : Bool := (cur.peek n).all isSpacing

/-- Whether the end of a line or of the text is here. -/
def atLineEnd (cur : Cursor) : Bool := (cur.peek 0).all isBreak

def atEnd (cur : Cursor) : Bool := cur.rest.isEmpty

/-- Whether a line of three times `c` begins here. -/
def atTriple (cur : Cursor) (c : Char) : Bool :=
  cur.mark.column == 0 && cur.looksAt 0 c && cur.looksAt 1 c && cur.looksAt 2 c && cur.spacingAt 3

/-- Whether a mark between documents begins here. -/
def atDocumentMark (cur : Cursor) : Bool := cur.atTriple '-' || cur.atTriple '.'

def skipComment (cur : Cursor) : Cursor :=
  let bare := cur.skipWhile isBlank
  if bare.looksAt 0 '#' then bare.skipWhile (!isBreak ·) else bare

/-- Gives up: a fault here, found in something that begins at `start`. -/
def fail {α : Type} (cur : Cursor) (fault : Fault) (context : Context) (start : Mark) :
    Except Problem α :=
  .error { fault, mark := cur.mark, context := some (context, start) }

end Cursor

/-- The beginning of a text. A byte order mark in front is not part of it; a second one is a
blank in front of what follows. -/
def Cursor.ofText (text : List Char) : Except Problem Cursor :=
  let (body, offset) := match text with
    | '\uFEFF' :: rest => (rest, 3)
    | _ => (text, 0)
  match forbidden? offset body with
  | some n => .error { fault := .controlCharacter, offset := n }
  | none =>
    let cur : Cursor := { rest := withLineFeeds body }
    .ok (if cur.looksAt 0 '\uFEFF' then cur.drop 1 else cur)

end Yaml
end DocModel

import DocModel.Markdown.Cursor
import DocModel.Text.Basic

/-!
# DocModel.Markdown.Scan

The markers that open and close the blocks of a document. Each test looks at one line from its
first visible character on; the end of the list is the end of the line.
-/

namespace DocModel
namespace Markdown

/-- How often `c` stands at the head of a text. -/
def runLength (c : Char) (text : List Char) : Nat := (text.takeWhile (· == c)).length

/-- Whether nothing but spaces and tabs is left. -/
def onlySpaces (text : List Char) : Bool := text.all isSpaceOrTab

/-- The level of a heading marked with `#`: one to six of them, then a blank or the end. -/
def headingLevel? (text : List Char) : Option Nat :=
  let level := runLength '#' text
  let follows := match text.drop level with
    | [] => true
    | c :: _ => isSpaceOrTab c
  if 1 ≤ level && level ≤ 6 && follows then some level else none

/-- The mark and length of a fence that opens a code block. The text after a fence of backticks
holds no backtick. -/
def openingFence? (text : List Char) : Option (Char × Nat) :=
  let ticks := runLength '\x60' text
  let tildes := runLength '~' text
  if 3 ≤ ticks && !(text.drop ticks).contains '\x60' then some ('\x60', ticks)
  else if 3 ≤ tildes then some ('~', tildes)
  else none

/-- Whether a line closes a code block with a fence of `mark`, `length` times. -/
def closesFence (mark : Char) (length : Nat) (text : List Char) : Bool :=
  let run := runLength mark text
  3 ≤ run && length ≤ run && onlySpaces (text.drop run)

/-- The level of the heading that a line under a paragraph makes of it. -/
def underlineLevel? (text : List Char) : Option Nat :=
  let double := runLength '=' text
  let single := runLength '-' text
  if 1 ≤ double && onlySpaces (text.drop double) then some 1
  else if 1 ≤ single && onlySpaces (text.drop single) then some 2
  else none

/-- Whether a line is a rule: three or more of one of `*`, `_`, `-` with nothing but blanks
between and after them. -/
def isRule (text : List Char) : Bool :=
  match text with
  | [] => false
  | c :: _ =>
    (c == '*' || c == '_' || c == '-') && text.all (fun d => d == c || isSpaceOrTab d)
      && 3 ≤ text.count c

/-- What marks the items of a list. -/
inductive ListMarker where
  /-- A bullet of this character. -/
  | bullet (mark : Char)
  /-- A number with this character after it. -/
  | ordered (delimiter : Char)
  deriving DecidableEq, Repr

/-- The marker of a list item and its length. A marker that interrupts a paragraph has text
after it, and its number is one. -/
def listMarker? (interrupts : Bool) (text : List Char) : Option (ListMarker × Nat) :=
  let accept (marker : ListMarker) (length : Nat) :=
    let rest := text.drop length
    let follows := match rest with
      | [] => true
      | c :: _ => isAsciiSpace c
    if follows && !(interrupts && onlySpaces rest) then some (marker, length) else none
  match text with
  | [] => none
  | c :: _ =>
    if c == '*' || c == '-' || c == '+' then accept (.bullet c) 1
    else if c.isDigit then
      let digits := (text.takeWhile Char.isDigit).take 9
      let number := digits.foldl (fun n d => 10 * n + (d.toNat - 48)) 0
      match text.drop digits.length with
      | d :: _ =>
        if (d == '.' || d == ')') && !(interrupts && number != 1) then
          accept (.ordered d) (digits.length + 1)
        else none
      | [] => none
    else none

end Markdown
end DocModel

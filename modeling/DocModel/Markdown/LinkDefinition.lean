import DocModel.Markdown.Cursor
import DocModel.Text.Basic

/-!
# DocModel.Markdown.LinkDefinition

Definitions of link targets, `[label]: target "title"`, at the head of a paragraph. They are no
part of the paragraph's text, and a paragraph of definitions alone is no block at all.

* `afterDefinition?` reads one definition;
* `dropDefinitions` removes every definition at the head.
-/

namespace DocModel
namespace Markdown

/-- The length of the longest label in bytes. -/
def maxLabelLength : Nat := 1000

/-- The rest of a label after its opening bracket, `length` bytes of which are read: its
characters and what follows the closing bracket. -/
def readLabel (length : Nat) : List Char → Option (List Char × List Char)
  | [] => none
  | '\\' :: d :: rest =>
    if maxLabelLength < length then none
    else if isPunctuation d then
      (readLabel (length + 2) rest).map fun (label, after) => ('\\' :: d :: label, after)
    else (readLabel (length + 1) (d :: rest)).map fun (label, after) => ('\\' :: label, after)
  | c :: rest =>
    if maxLabelLength < length || c == '[' then none
    else if c == ']' then some ([], rest)
    else (readLabel (length + c.utf8Size) rest).map fun (label, after) => (c :: label, after)
termination_by text => text.length

/-- What follows a line end, if the text stands before one or is at its end. -/
def afterLineEnd? : List Char → Option (List Char)
  | [] => some []
  | '\n' :: rest => some rest
  | _ => none

/-- Past spaces and tabs, and at most one line end among them. -/
def skipSpacesAndLineEnd (text : List Char) : List Char :=
  match text.dropWhile isSpaceOrTab with
  | '\n' :: rest => rest.dropWhile isSpaceOrTab
  | rest => rest

/-- What follows a target in pointed brackets, its first bracket already read. -/
def afterPointed? : List Char → Option (List Char)
  | [] => none
  | '>' :: rest => if rest.isEmpty then none else some rest
  | '\\' :: _ :: rest => afterPointed? rest
  | c :: rest => if c == '\n' || c == '<' then none else afterPointed? rest

/-- What follows a bare target, `depth` parentheses of which are open. `started` tells whether
any of it was read. -/
def afterBare? (started : Bool) (depth : Nat) : List Char → Option (List Char)
  | [] => none
  | '\\' :: d :: rest =>
    if isPunctuation d then afterBare? true depth rest else afterBare? true depth (d :: rest)
  | c :: rest =>
    if c == '(' then if depth < 32 then afterBare? true (depth + 1) rest else none
    else if c == ')' && depth == 0 then some (c :: rest)
    else if c == ')' then afterBare? true (depth - 1) rest
    else if isAsciiSpace c || c.toNat < 0x20 || c.toNat == 0x7F then
      if started && depth == 0 then some (c :: rest) else none
    else afterBare? true depth rest
termination_by text => text.length

def afterTarget? : List Char → Option (List Char)
  | '<' :: rest => afterPointed? rest
  | text => afterBare? false 0 text

/-- What follows a title, its opening quote already read. `escaping` tells whether a backslash
came last, and `fallback` is what follows the last quote after a backslash. -/
def afterQuoted? (opening closing : Char) (escaping : Bool) (fallback : Option (List Char)) :
    List Char → Option (List Char)
  | [] => fallback
  | c :: rest =>
    if escaping then
      let fallback := if c == closing then some rest else fallback
      afterQuoted? opening closing (c == '\\') fallback rest
    else if c == closing then some rest
    else if c == opening then fallback
    else afterQuoted? opening closing (c == '\\') fallback rest

/-- What follows a title in quotes or parentheses. -/
def afterTitle? : List Char → Option (List Char)
  | '"' :: rest => afterQuoted? '"' '"' false none rest
  | '\'' :: rest => afterQuoted? '\'' '\'' false none rest
  | '(' :: rest => afterQuoted? '(' ')' false none rest
  | _ => none

/-- What follows the title, if there is one, and the end of its line; `text` follows the
target. A title needs white space before it; one that does not end its line is none. -/
def afterTitleLine? (text : List Char) : Option (List Char) :=
  let spaced := skipSpacesAndLineEnd text
  let titled :=
    if spaced.length < text.length then
      (afterTitle? spaced).bind fun rest => afterLineEnd? (rest.dropWhile isSpaceOrTab)
    else none
  match titled with
  | some rest => some rest
  | none => afterLineEnd? (text.dropWhile isSpaceOrTab)

def afterDefinition? (text : List Char) : Option (List Char) :=
  match text with
  | '[' :: rest =>
    match readLabel 0 rest with
    | some (label, ':' :: more) =>
      if label.all isAsciiSpace then none
      else (afterTarget? (skipSpacesAndLineEnd more)).bind afterTitleLine?
    | _ => none
  | _ => none

/-- At most `n` definitions removed from the head of a text. -/
def dropDefinitionsUpTo : Nat → List Char → List Char
  | 0, text => text
  | n + 1, text =>
    match afterDefinition? text with
    | some rest => dropDefinitionsUpTo n rest
    | none => text

/-- A text without the definitions at its head. -/
def dropDefinitions (text : List Char) : List Char :=
  dropDefinitionsUpTo text.length text

end Markdown
end DocModel

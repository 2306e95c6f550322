import DocModel.Unicode.Alphanumeric
import DocModel.Validation.Report

/-!
# DocModel.Editor.Lint

What an editor shows of the findings about a document: ranges of bytes with a message. A finding
about a type is moved to the line where the type is given, if that line is close.

* `editorMessages` is the list for a document; that a document is empty is nothing to show;
* `completeAt` offers snippets in place of the word before the cursor.
-/

namespace DocModel
namespace Editor

open Text Unicode Validation

/-- A message about the bytes from `start` up to `stop`. -/
structure EditorMessage where
  start : Nat
  stop : Nat
  message : String
  deriving DecidableEq

/-- Whether a line, without the white space in front, gives a type. -/
def givesType (text : List Char) : Bool := "- type:".toList.isPrefixOf (lowercase text)

/-- Whether a line begins a bullet or a heading. -/
def beginsItem (text : List Char) : Bool := text.head? == some '-' || text.head? == some '#'

/-- The range of the first of `n` lines that gives a type, from its marker to its end. The line of
the attribute itself is `first`; another bullet or heading after it ends the search. -/
def typeLineFrom (table : LineTable) (first line : Nat) : Nat → Option Span
  | 0 => none
  | n + 1 =>
    let text := table.textOf line
    let bare := trimStart text
    if givesType bare then
      let start := table.startOf line
      some ⟨start + (byteLength text - byteLength bare), start + byteLength (trimEnd text)⟩
    else if first < line && beginsItem text then none
    else typeLineFrom table first (line + 1) n

/-- How many lines, from that of the attribute on, are searched for its type. -/
def typeLineReach : Nat := 3

/-- The range of the line that gives the type of the attribute on a line. -/
def typeLine? (table : LineTable) (line : Nat) : Option Span :=
  typeLineFrom table line line typeLineReach

/-- The ranges of a finding, one for each of its places. -/
def messagesOf (source : String) (f : Finding) : List EditorMessage :=
  let table := LineTable.ofSource source.toList
  f.positions.map fun position =>
    let range := match f.kind with
      | .typeError => (typeLine? table position.line).getD position.offset
      | _ => position.offset
    { start := range.start, stop := range.stop, message := f.message }

/-- The findings about a document without the one that it is empty. -/
def panelFindings (source : String) : List Finding := (validate source).withoutEmptyNotice.findings

/-- What an editor shows of a document. -/
def editorMessages (source : String) : List EditorMessage :=
  (panelFindings source).flatMap (messagesOf source)

/-- Whether a document reads as a data model at all. -/
def isModel (source : String) : Bool := !(validate source).isEmptyDocument

/-- A text that an editor offers to insert. -/
structure Snippet where
  label : String
  text : String
  deriving DecidableEq

def attributeText : String :=
  "- enter_name\n    - Type: <Type>\n    - Description: <Description>\n"

/-- The texts that an editor offers. -/
def snippets : List Snippet :=
  [{ label := "Add Object", text := "### ObjectName\n\n_Description_\n\n" ++ attributeText },
   { label := "Add Attribute", text := attributeText }]

/-- Snippets that replace the text from a byte up to the cursor. -/
structure Completion where
  /-- The first byte to replace. -/
  start : Nat
  options : List Snippet
  deriving DecidableEq

/-- The characters in the first bytes of a text, unless these end inside a character or the text is
shorter. -/
def takeBytes? : Nat → List Char → Option (List Char)
  | 0, _ => some []
  | _ + 1, [] => none
  | n + 1, c :: rest =>
    if c.utf8Size ≤ n + 1 then (takeBytes? (n + 1 - c.utf8Size) rest).map (c :: ·) else none
termination_by _ cs => cs

def isWordPart (c : Char) : Bool := isAlphanumeric c || c == '_'

/-- What to offer at a byte of a document. Where no word ends, something is offered only on an
explicit request. -/
def completeAt (source : List Char) (offset : Nat) (explicit : Bool) : Option Completion :=
  match takeBytes? offset source with
  | none => none
  | some before =>
    let word := before.reverse.takeWhile isWordPart
    if word.isEmpty && !explicit then none
    else some { start := offset - byteLength word, options := snippets }

end Editor
end DocModel

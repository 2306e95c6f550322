import DocModel.Number.Shortest
import DocModel.Unicode.CaseMapping
import DocModel.Yaml.Resolve

/-!
# DocModel.Yaml.Writer

Values as YAML text in block style.

* a text is written plain if it reads back as itself, otherwise between single quotes; with line
  ends it becomes a block text; with characters that cannot be shown it stands between double
  quotes (`chooseStyle`);
* a key that has line ends or is longer than 128 bytes is written after a question mark;
* a sequence is indented like the key before it; empty collections are brackets.
-/

namespace DocModel
namespace Yaml

open Number Text

/-- A value to be written. -/
inductive Value where
  | bool (value : Bool)
  | int (value : Int)
  | float (value : Double)
  | string (value : String)
  | sequence (items : List Value)
  /-- A mapping with its entries in order. -/
  | mapping (entries : List (String × Value))
  deriving Inhabited

/-! ## The style of a text -/

/-- A character that ends a line wherever the text is read. -/
def isLineEnd (c : Char) : Bool :=
  c == '\n' || c == '\r' || c == '\u0085' || c == '\u2028' || c == '\u2029'

/-- A space, a tab, the end of a line, or null. -/
def isGap (c : Char) : Bool := c == ' ' || c == '\t' || c == '\x00' || isLineEnd c

/-- Whether a character can be shown as itself. -/
def isShowable (c : Char) : Bool :=
  let n := c.toNat
  n == 0x0A || (0x20 ≤ n && n ≤ 0x7E)
    || (0xA0 ≤ n && n != 0xFEFF && n != 0xFFFE && n != 0xFFFF)

/-- Whether a character has a meaning at the head of a plain text. -/
def isLeadingIndicator (c : Char) (next : Option Char) : Bool :=
  "#,[]\x7b\x7d&*!|>'\"%@\x60".toList.contains c
    || ((c == '?' || c == ':' || c == '-') && next.all isGap)

/-- Whether some character after the first has a meaning in a plain text: a colon before a gap, or
a number sign after one. -/
def hasInnerIndicator (before : Char) : List Char → Bool
  | [] => false
  | c :: rest =>
    (c == ':' && rest.head?.all isGap) || (c == '#' && isGap before) || hasInnerIndicator c rest

/-- Whether a text has a character with a meaning in plain texts. -/
def hasIndicator (text : List Char) : Bool :=
  match text with
  | [] => false
  | c :: rest =>
    ['-', '-', '-'].isPrefixOf text || ['.', '.', '.'].isPrefixOf text
      || isLeadingIndicator c rest.head? || hasInnerIndicator c rest

/-- Whether a character of one class is followed by one of another. -/
def hasNeighbours (first second : Char → Bool) : List Char → Bool
  | a :: b :: rest => (first a && second b) || hasNeighbours first second (b :: rest)
  | _ => false

/-- Whether a text cannot be shown without escapes: it has hidden characters, or a line that ends
with a space. -/
def needsEscapes (text : List Char) : Bool :=
  text.any (!isShowable ·) || hasNeighbours (· == ' ') isLineEnd text

/-- Whether a text may stand between single quotes. -/
def mayBeSingleQuoted (text : List Char) : Bool :=
  !needsEscapes text && !hasNeighbours isLineEnd (· == ' ') text

def mayBeBlock (text : List Char) : Bool := !needsEscapes text && text.getLast? != some ' '

def mayBePlain (text : List Char) : Bool :=
  mayBeSingleQuoted text && !text.any isLineEnd && text.head? != some ' '
    && text.getLast? != some ' ' && !hasIndicator text

/-- Whether a text is a word for a truth value or for nothing up to case, or looks like a number
with zeros in front. -/
def isAmbiguous (text : List Char) : Bool :=
  let word := String.ofList (Unicode.lowercase text)
  (boolWord? word).isSome || isNullWord word || isPaddedNumber text

/-- How a text is to be written. -/
inductive WrittenStyle where
  | plain
  | single
  | double
  | block
  deriving DecidableEq, Repr

def chooseStyle (text : List Char) : WrittenStyle :=
  if text.contains '\n' then if mayBeBlock text then .block else .double
  else if resolve text != .text || isAmbiguous text || !mayBePlain text then
    if mayBeSingleQuoted text then .single else .double
  else .plain

/-! ## Putting characters on the page -/

/-- A text that is being written. -/
structure Page where
  /-- The characters so far, backwards. -/
  out : List Char := []
  /-- The characters on the last line. -/
  column : Nat := 0
  /-- Whether white space comes last. -/
  spaced : Bool := true
  /-- Whether the last line holds indentation and indicators only. -/
  indented : Bool := true

namespace Page

/-- One more character on the line. -/
def put (page : Page) (c : Char) : Page :=
  { page with out := c :: page.out, column := page.column + 1 }

def putAll (page : Page) (cs : List Char) : Page := cs.foldl put page

def endLine (page : Page) (c : Char) : Page := { page with out := c :: page.out, column := 0 }

/-- A line that is indented by a number of columns. -/
def startLine (page : Page) (indent : Nat) : Page :=
  let fresh := page.indented && (page.column < indent || (page.column == indent && page.spaced))
  let page := if fresh then page else page.endLine '\n'
  { page.putAll (List.replicate (indent - page.column) ' ') with spaced := true, indented := true }

/-- A space, unless white space comes last. -/
def space (page : Page) : Page := if page.spaced then page else page.put ' '

def indicator (page : Page) (cs : List Char) (keepsIndent : Bool) : Page :=
  { page.putAll cs with spaced := false, indented := page.indented && keepsIndent }

def afterText (page : Page) : Page := { page with spaced := false, indented := false }

end Page

/-! ## Texts -/

/-- The escape of a character, without its backslash. -/
def escapeOf (c : Char) : List Char :=
  match c with
  | '\x00' => ['0']
  | '\x07' => ['a']
  | '\x08' => ['b']
  | '\t' => ['t']
  | '\n' => ['n']
  | '\x0b' => ['v']
  | '\x0c' => ['f']
  | '\r' => ['r']
  | '\x1b' => ['e']
  | '"' => ['"']
  | '\\' => ['\\']
  | '\u0085' => ['N']
  | '\u00a0' => ['_']
  | '\u2028' => ['L']
  | '\u2029' => ['P']
  | _ =>
    let digits := (Nat.toDigits 16 c.toNat).map Char.toUpper
    let padded (letter : Char) (width : Nat) :=
      letter :: List.replicate (width - digits.length) '0' ++ digits
    if c.toNat ≤ 0xFF then padded 'x' 2 else if c.toNat ≤ 0xFFFF then padded 'u' 4 else padded 'U' 8

def doubleQuotedImage (c : Char) : List Char :=
  if !isShowable c || isLineEnd c || c == '"' || c == '\\' then '\\' :: escapeOf c else [c]

/-- Characters between single quotes; a line end is followed by the indentation. A line feed that
is not next to another line end is doubled. `broken` tells whether a line end comes last. -/
def putSingleQuoted (indent : Nat) (broken : Bool) : List Char → Page → Page
  | [], page => if broken then page.startLine indent else page
  | c :: rest, page =>
    if isLineEnd c then
      let page := if !broken && c == '\n' then page.endLine '\n' else page
      putSingleQuoted indent true rest { page.endLine c with indented := true }
    else if c == ' ' then putSingleQuoted indent broken rest (page.put c)
    else
      let page := if broken then page.startLine indent else page
      let page := if c == '\'' then page.put c else page
      putSingleQuoted indent false rest { page.put c with indented := false }

/-- The lines of a block text. -/
def putBlock (indent : Nat) (broken : Bool) : List Char → Page → Page
  | [], page => page
  | c :: rest, page =>
    if isLineEnd c then putBlock indent true rest { page.endLine c with indented := true }
    else
      let page := if broken then page.startLine indent else page
      putBlock indent false rest { page.put c with indented := false }

/-- What stands after the sign of a block text: the indentation, if it cannot be seen, and what
becomes of the last line ends. -/
def blockHints (text : List Char) : List Char :=
  let indentation := if text.head?.any fun c => c == ' ' || isLineEnd c then ['2'] else []
  let chomping := match text.reverse with
    | [] => ['-']
    | last :: before =>
      if !isLineEnd last then ['-'] else if before.head?.all isLineEnd then ['+'] else []
  indentation ++ chomping

/-- A text in its style; its further lines are indented by `indent` columns. -/
def putText (indent : Nat) (text : List Char) (page : Page) : Page :=
  match chooseStyle text with
  | .plain => (page.space.putAll text).afterText
  | .single => (((putSingleQuoted indent false text (page.space.indicator ['\''] false)).put
      '\'')).afterText
  | .double =>
    ((page.space.put '"').putAll (text.flatMap doubleQuotedImage ++ ['"'])).afterText
  | .block =>
    let page := (page.space.indicator ('|' :: blockHints text) false).endLine '\n'
    putBlock indent true text { page with spaced := true, indented := true }

/-- A word that is written as it is. -/
def putWord (word : String) (page : Page) : Page := (page.space.putAll word.toList).afterText

/-! ## Values -/

/-- A key: an indented line, the text and a colon. -/
def putKey (indent : Nat) (key : List Char) (page : Page) : Page :=
  let page := page.startLine indent
  if key.any isLineEnd || 128 < byteLength key then
    let page := putText (indent + 2) key (page.space.indicator ['?'] true)
    (page.startLine indent).indicator [':'] true
  else (putText (indent + 2) key page).indicator [':'] false

mutual

/-- A value in something indented by `indent` columns, or outside of anything; `inMapping` if it
comes after a key. -/
def putValue (indent : Option Nat) (inMapping : Bool) : Value → Page → Page
  | .bool value, page => putWord (if value then "true" else "false") page
  | .int value, page => putWord (intText value) page
  | .float value, page => putWord (value.text (compact []) ".inf" ".nan") page
  | .string value, page => putText ((indent.map (· + 2)).getD 2) value.toList page
  | .sequence [], page => (page.space.indicator ['[', ']'] false)
  | .sequence (item :: items), page =>
    let inner := match indent with
      | none => 0
      | some n => if inMapping && !page.indented then n else n + 2
    putItems inner (item :: items) page
  | .mapping [], page => (page.space.indicator ['\x7b', '\x7d'] false)
  | .mapping (entry :: entries), page =>
    putEntries ((indent.map (· + 2)).getD 0) (entry :: entries) page

def putItems (indent : Nat) : List Value → Page → Page
  | [], page => page
  | item :: items, page =>
    let page := (page.startLine indent).indicator ['-'] true
    putItems indent items (putValue (some indent) false item page)

def putEntries (indent : Nat) : List (String × Value) → Page → Page
  | [], page => page
  | (key, value) :: entries, page =>
    putEntries indent entries (putValue (some indent) true value (putKey indent key.toList page))

end

def write (value : Value) : String :=
  String.ofList ((putValue none false value {}).startLine 0).out.reverse

end Yaml
end DocModel

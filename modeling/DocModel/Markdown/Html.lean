import DocModel.Markdown.Cursor
import DocModel.Text.Basic

/-!
# DocModel.Markdown.Html

The seven kinds of raw HTML blocks: the line that opens one and the line that ends it.

* `openingKind?` tells the kind that a line opens;
* `endsOn` tells whether a line ends a block of a kind; kinds six and seven end at a blank line
  instead.
-/

namespace DocModel
namespace Markdown

open Text

/-- The kinds of raw HTML blocks. -/
inductive HtmlKind where
  /-- Elements whose content is raw text: `script`, `pre`, `textarea`, `style`. -/
  | rawText
  | comment
  | instruction
  | declaration
  /-- A section of character data. -/
  | cdata
  /-- An element of block level. -/
  | block
  /-- A line with one complete tag of any other name. -/
  | tag
  deriving DecidableEq, Repr

/-- Names of elements whose content is raw text. -/
def rawTextNames : List String := ["script", "pre", "textarea", "style"]

/-- Names of elements of block level. -/
def blockNames : List String :=
  ["address", "article", "aside", "base", "basefont", "blockquote", "body", "caption", "center",
    "col", "colgroup", "dd", "details", "dialog", "dir", "div", "dl", "dt", "fieldset",
    "figcaption", "figure", "footer", "form", "frame", "frameset", "h1", "h2", "h3", "h4", "h5",
    "h6", "head", "header", "hr", "html", "iframe", "legend", "li", "link", "main", "menu",
    "menuitem", "nav", "noframes", "ol", "optgroup", "option", "p", "param", "search", "section",
    "source", "title", "summary", "table", "tbody", "td", "tfoot", "th", "thead", "tr", "track",
    "ul"]

/-- The name at the head of a text, in small letters, and what follows it. -/
def leadingName (text : List Char) : String × List Char :=
  (String.ofList ((text.takeWhile Char.isAlphanum).map Char.toLower),
    text.dropWhile Char.isAlphanum)

/-- A character of a tag's name. -/
def isTagNameChar (c : Char) : Bool := c.isAlphanum || c == '-'

/-- A character that begins an attribute's name. -/
def isAttributeStart (c : Char) : Bool := c.isAlpha || c == '_' || c == ':'

/-- A character of an attribute's name. -/
def isAttributeChar (c : Char) : Bool :=
  c.isAlphanum || c == '_' || c == ':' || c == '.' || c == '-'

/-- A character of a value without quotes. -/
def isBareValueChar (c : Char) : Bool :=
  !(isAsciiSpace c || c == '"' || c == '\'' || c == '=' || c == '<' || c == '>' || c == '\x60')

def afterTagName? : List Char → Option (List Char)
  | c :: rest => if c.isAlpha then some (rest.dropWhile isTagNameChar) else none
  | [] => none

def afterValue? : List Char → Option (List Char)
  | [] => none
  | c :: rest =>
    if c == '"' || c == '\'' then
      match rest.dropWhile (· != c) with
      | _ :: more => some more
      | [] => none
    else if isBareValueChar c then some (rest.dropWhile isBareValueChar)
    else none

/-- What follows an attribute's name and, if there is one, its value. -/
def afterAttribute? (text : List Char) : Option (List Char) :=
  match text with
  | c :: rest =>
    if isAttributeStart c then
      let named := rest.dropWhile isAttributeChar
      match named.dropWhile isAsciiSpace with
      | '=' :: value => afterValue? (value.dropWhile isAsciiSpace)
      | _ => some named
    else none
  | [] => none

/-- What follows the attributes and the closing bracket of an opening tag; `fuel` bounds the
number of attributes. -/
def afterAttributes? : Nat → List Char → Option (List Char)
  | 0, _ => none
  | fuel + 1, text =>
    let spaced := text.dropWhile isAsciiSpace
    match spaced with
    | '>' :: rest => some rest
    | '/' :: '>' :: rest => some rest
    | _ =>
      if spaced.length < text.length then (afterAttribute? spaced).bind (afterAttributes? fuel)
      else none

/-- What follows an opening tag, its first bracket already read. -/
def afterOpenTag? (text : List Char) : Option (List Char) :=
  (afterTagName? text).bind fun rest => afterAttributes? (rest.length + 1) rest

/-- What follows a closing tag, its first bracket and slash already read. -/
def afterCloseTag? (text : List Char) : Option (List Char) :=
  (afterTagName? text).bind fun rest =>
    match rest.dropWhile isAsciiSpace with
    | '>' :: more => some more
    | _ => none

/-- Whether a line is one complete tag and blanks. -/
def isTagLine (text : List Char) : Bool :=
  let rest := match text with
    | '<' :: '/' :: tag => afterCloseTag? tag
    | '<' :: tag => afterOpenTag? tag
    | _ => none
  match rest with
  | some more => more.all fun c => isSpaceOrTab c || c == '\x0c'
  | none => false

/-- Whether a line opens with the tag of an element of block level. -/
def opensBlockElement (tag : List Char) : Bool :=
  let inner := match tag with
    | '/' :: rest => rest
    | _ => tag
  let (name, rest) := leadingName inner
  blockNames.contains name &&
    match rest with
    | [] => true
    | '/' :: '>' :: _ => true
    | c :: _ => isAsciiSpace c || c == '>'

/-- Whether a line opens with the tag of an element whose content is raw text. -/
def opensRawText (tag : List Char) : Bool :=
  let (name, rest) := leadingName tag
  rawTextNames.contains name &&
    match rest with
    | [] => true
    | c :: _ => isAsciiSpace c || c == '>'

/-- The kind of raw HTML block that a line opens. A single tag opens one only where no paragraph
is open. -/
def openingKind? (inParagraph : Bool) (text : List Char) : Option HtmlKind :=
  match text with
  | '<' :: tag =>
    if opensRawText tag then some .rawText
    else if "!--".toList.isPrefixOf tag then some .comment
    else if tag.head? == some '?' then some .instruction
    else if "![CDATA[".toList.isPrefixOf (tag.map Char.toUpper) then some .cdata
    else if opensDeclaration tag then some .declaration
    else if opensBlockElement tag then some .block
    else if !inParagraph && isTagLine text then some .tag
    else none
  | _ => none
where
  /-- An exclamation mark and a letter. -/
  opensDeclaration : List Char → Bool
    | '!' :: c :: _ => c.isAlpha
    | _ => false

/-- Whether a line ends a block of a kind. -/
def HtmlKind.endsOn (kind : HtmlKind) (text : List Char) : Bool :=
  match kind with
  | .rawText =>
    rawTextNames.any fun name => Text.contains ("</" ++ name ++ ">").toList (text.map Char.toLower)
  | .comment => Text.contains "-->".toList text
  | .instruction => Text.contains "?>".toList text
  | .declaration => Text.contains ">".toList text
  | .cdata => Text.contains "]]>".toList text
  | .block => false
  | .tag => false

/-- Whether a blank line ends a block of a kind. -/
def HtmlKind.endsAtBlank : HtmlKind → Bool
  | .block => true
  | .tag => true
  | _ => false

end Markdown
end DocModel

import DocModel.Text.Basic
import DocModel.Unicode.Printable

/-!
# DocModel.Text.Escape

Texts written so that they fit between the marks of a format.

* `escapeXml` for attribute values and content of XML;
* `escapeString` for string literals between double quotes;
* `quoted` is such a literal in which every invisible character shows as its number.
-/

namespace DocModel
namespace Text

open Unicode

/-- The entity that stands for a character in XML, or the character. -/
def xmlImage (c : Char) : List Char :=
  match c with
  | '&' => "&amp;".toList
  | '<' => "&lt;".toList
  | '>' => "&gt;".toList
  | '"' => "&quot;".toList
  | '\'' => "&apos;".toList
  | _ => [c]

/-- A text for an attribute value or the content of an element. -/
def escapeXml (s : String) : String := onChars (·.flatMap xmlImage) s

/-- How a character is written in a string literal. -/
def literalImage (c : Char) : List Char :=
  match c with
  | '\\' => ['\\', '\\']
  | '"' => ['\\', '"']
  | '\n' => ['\\', 'n']
  | '\r' => ['\\', 'r']
  | '\t' => ['\\', 't']
  | _ => [c]

/-- A text for a string literal between double quotes. -/
def escapeString (s : String) : String := onChars (·.flatMap literalImage) s

/-- The number of a character between braces. -/
def numberImage (c : Char) : List Char :=
  ['\\', 'u', '\x7b'] ++ Nat.toDigits 16 c.toNat ++ ['\x7d']

/-- How a character is shown in a quoted text. -/
def visibleImage (c : Char) : List Char :=
  match c with
  | '\x00' => ['\\', '0']
  | '\\' | '"' | '\n' | '\r' | '\t' => literalImage c
  | _ => if isGraphemeExtend c || !isPrintable c then numberImage c else [c]

/-- A text between double quotes with every invisible character shown. -/
def quoted (s : String) : String :=
  "\"" ++ onChars (·.flatMap visibleImage) s ++ "\""

end Text
end DocModel

import DocModel.Text.Basic
import DocModel.Unicode.CaseMapping

/-!
# DocModel.Dialect.Entry

The grammar of single lines.

| Line                        | Meaning                                       |
|-----------------------------|-----------------------------------------------|
| `__id__`                    | an attribute `id` that identifies its object  |
| `[Author](#author)[]`       | a list of values of the type `Author`         |
| `string, [Unit](#unit)`     | a value of one of two types                   |
| `ECO = "https://..."`       | a member `ECO` of an enumeration              |
-/

namespace DocModel
namespace Dialect

open Text

/-- The name in the text of a bullet, and whether underscores mark it as an identifier. -/
def attributeName (text : List Char) : List Char × Bool :=
  let bare := trim text
  if 4 < bare.length && ['_', '_'].isPrefixOf bare && ['_', '_'].isSuffixOf bare then
    (trim ((bare.drop 2).take (bare.length - 4)), true)
  else (bare, false)

/-- The label of a text that is a link and nothing else. -/
def linkLabel? (text : List Char) : Option (List Char) :=
  match text with
  | '[' :: rest =>
    let label := rest.takeWhile (· != ']')
    match rest.drop label.length with
    | ']' :: '(' :: target =>
      if !label.isEmpty && target.dropWhile (· != ')') == [')'] then some label else none
    | _ => none
  | _ => none

/-- The name of one type: the label of a link, or a text with backticks around it or not. -/
def typeName (text : List Char) : List Char :=
  match linkLabel? text with
  | some label => trim label
  | none => trimWhere (· == '\x60') text

/-- The names of the types that a text gives, and whether it asks for a list of values. -/
def typeValue (text : List Char) : List String × Bool :=
  let alternatives := splitWhere (fun c => c == '|' || c == ',') (removePairs '[' ']' text)
  (((alternatives.map trim).filter (!·.isEmpty)).map fun name => String.ofList (typeName name),
    contains ['[', ']'] text)

/-- The truth value that a word denotes. -/
def boolValue? (text : String) : Option Bool :=
  let word := asciiLowercase (onChars trim text)
  if ["true", "yes", "1"].contains word then some true
  else if ["false", "no", "0"].contains word then some false
  else none

/-- What a line of an enumeration says. -/
inductive MemberLine where
  /-- A member and its value. -/
  | mapping (key value : String)
  /-- Nothing: it is blank or a comment. -/
  | skip
  /-- Nothing that can be read. -/
  | malformed
  deriving DecidableEq, Repr

/-- A character that a name may begin with. -/
def isNameStart (c : Char) : Bool := c.isAlpha || c == '_'

def isNamePart (c : Char) : Bool := c.isAlphanum || c == '_'

/-- A value between quotes of one kind, if nothing but a comma follows it. -/
def quotedValue? (text : List Char) : Option (List Char) :=
  match text with
  | [] => none
  | quote :: rest =>
    if quote != '"' && quote != '\'' then none
    else
      let value := rest.takeWhile (· != quote)
      match rest.drop value.length with
      | _ :: after =>
        let tail := trim after
        if tail.isEmpty || tail == [','] then some value else none
      | [] => none

/-- A member and its value: a name, an equals sign and a value between quotes. -/
def memberMapping? (line : List Char) : Option (List Char × List Char) :=
  let text := trimStart line
  let key := text.takeWhile isNamePart
  match key.head?, trimStart (text.drop key.length) with
  | some c, '=' :: rest =>
    if isNameStart c then (quotedValue? (trimStart rest)).map (key, ·) else none
  | _, _ => none

/-- What a line of an enumeration says. -/
def readMemberLine (line : List Char) : MemberLine :=
  let text := trim line
  if text.isEmpty || ['#'].isPrefixOf text || ['/', '/'].isPrefixOf text then .skip
  else
    match memberMapping? line with
    | some (key, value) => .mapping (String.ofList key) (String.ofList value)
    | none => .malformed

/-- The fragment that a link to a definition points at. -/
def headingAnchor (name : String) : String := "#" ++ onChars Unicode.lowercase name

end Dialect
end DocModel

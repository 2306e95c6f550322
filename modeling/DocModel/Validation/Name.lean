import DocModel.Text.Basic

/-!
# DocModel.Validation.Name

The forms of the names and terms of a model.

* definitions: a letter, then letters, digits and underscores; attributes may begin with an
  underscore;
* terms: a URI, or a prefix, a colon and a rest without white space;
* XML names: one or two names with a colon between them.
-/

namespace DocModel
namespace Validation

open Text Unicode

/-- Whether a text is a character of one class and then characters of another. -/
def isNameOf (first later : Char → Bool) : List Char → Bool
  | [] => false
  | c :: rest => first c && rest.all later

/-- A letter of ASCII or an underscore. -/
def isLetterOrUnderscore (c : Char) : Bool := c.isAlpha || c == '_'

/-- A letter or digit of ASCII or an underscore. -/
def isWordChar (c : Char) : Bool := c.isAlphanum || c == '_'

/-- Whether a text may name a definition. -/
def isDefinitionName (text : List Char) : Bool := isNameOf Char.isAlpha isWordChar text

/-- Whether a text may name an attribute. -/
def isAttributeName (text : List Char) : Bool := isNameOf isLetterOrUnderscore isWordChar text

/-- A character inside a prefix or an XML name. -/
def isPrefixChar (c : Char) : Bool := isWordChar c || c == '.' || c == '-'

/-- Whether a text may be a prefix or a part of an XML name. -/
def isPrefixName (text : List Char) : Bool := isNameOf isLetterOrUnderscore isPrefixChar text

/-- Whether a text is not empty and has no white space. -/
def isSolid (text : List Char) : Bool := !text.isEmpty && text.all (!isWhiteSpace ·)

def curiePrefix? (term : List Char) : Option (List Char) :=
  match splitOnce ':' term with
  | some (name, rest) => if isPrefixName name && isSolid rest then some name else none
  | none => none

/-- A character inside the scheme of a URI. -/
def isSchemeChar (c : Char) : Bool := c.isAlphanum || c == '+' || c == '.' || c == '-'

/-- Whether a term is a URI: a scheme, a colon, two slashes and a rest. -/
def isUri (term : List Char) : Bool :=
  match splitOnce ':' term with
  | some (scheme, '/' :: '/' :: rest) => isNameOf Char.isAlpha isSchemeChar scheme && isSolid rest
  | _ => false

/-- Whether a text may be a name in XML. -/
def isXmlName (text : List Char) : Bool :=
  match splitOnce ':' text with
  | some (name, rest) => isPrefixName name && isPrefixName rest
  | none => isPrefixName text

end Validation
end DocModel

import DocModel.Number.Decimal
import DocModel.Target.Layout
import DocModel.Text.Escape

/-!
# DocModel.Target.Python

Classes of Python in three styles.

| Style     | Base class     | A field is declared with               |
|-----------|----------------|----------------------------------------|
| pydantic  | `BaseModel`    | `Field(...)`                           |
| XML       | `BaseXmlModel` | `attr(...)` or `element(...)`          |
| dataclass | none           | its default, or `field(...)` for lists |

Enumerations come first. An underscore follows a name that is a keyword. In a dataclass the fields
without a default come before those with one.
-/

namespace DocModel
namespace Target.Python

open Text

/-- The words that are no identifiers. -/
def keywords : List String :=
  ["False", "None", "True", "and", "as", "assert", "async", "await", "break", "class",
   "continue", "def", "del", "elif", "else", "except", "finally", "for", "from", "global",
   "if", "import", "in", "is", "lambda", "nonlocal", "not", "or", "pass", "raise",
   "return", "try", "while", "with", "yield"]

/-- A kind of class. -/
inductive ClassStyle where
  /-- Classes that check their values. -/
  | pydantic
  /-- Classes that read and write XML. -/
  | pydanticXml
  | dataclass
  deriving DecidableEq, Repr

def primitiveType : Primitive → String
  | .string | .identifier => "str"
  | .integer => "int"
  | .float | .number => "float"
  | .boolean => "bool"
  | .bytes => "bytes"
  | .date => "date"
  | .dateTime => "datetime"

def identifier (name : String) : String := if keywords.contains name then name ++ "_" else name

/-- The type of a single value of an attribute. -/
def valueType (m : DataModel) (a : Attribute) : String :=
  match unique (a.dtypes.map (m.typeName primitiveType id)) with
  | [] => "Any"
  | [name] => name
  | names => "Union[" ++ String.intercalate ", " names ++ "]"

/-- The type of the field for an attribute. -/
def annotation (m : DataModel) (a : Attribute) : String :=
  if a.multiple then "List[" ++ valueType m a ++ "]"
  else if a.isRequired then valueType m a
  else "Optional[" ++ valueType m a ++ "]"

def numericTypes : List Primitive := [.integer, .float, .number]

/-- Whether the values of a type are numbers. -/
def isNumeric (m : DataModel) (dtype : String) : Bool :=
  match m.classify dtype with
  | .primitive p => numericTypes.contains p
  | _ => false

def textLiteral (text : String) : String := "\"" ++ escapeString text ++ "\""

/-- A default value of an attribute as a literal. -/
def literal (m : DataModel) (a : Attribute) (value : String) : String :=
  if equalsIgnoringCase value "true" then "True"
  else if equalsIgnoringCase value "false" then "False"
  else if a.dtypes.any (isNumeric m) && (Number.Numeral.read? value.toList).isSome then value
  else textLiteral (onChars (trimWhere (· == '"')) value)

/-- What a field holds if nothing is given. -/
inductive Default where
  | missing
  | emptyList
  | value (literal : String)
  deriving DecidableEq, Repr

/-- What the field for an attribute holds if nothing is given. -/
def default (m : DataModel) (a : Attribute) : Default :=
  if a.multiple then .emptyList
  else
    match a.default? with
    | some value => .value (literal m a value)
    | none => if a.isRequired then .missing else .value "None"

def Default.argument? : Default → Option String
  | missing => none
  | emptyList => some "default_factory=list"
  | value literal => some ("default=" ++ literal)

/-- A field of a class. -/
structure Field where
  name : String
  annotation : String
  /-- What it holds if nothing is given. -/
  default : Default
  deriving DecidableEq, Repr

def field (m : DataModel) (a : Attribute) : Field :=
  { name := identifier a.name, annotation := annotation m a, default := default m a }

def call (name : String) (arguments : List String) : String :=
  name ++ "(" ++ String.intercalate ", " arguments ++ ")"

def textArgument (name text : String) : String := name ++ "=\"" ++ text ++ "\""

/-- The declared value of a field in a dataclass. -/
def Default.dataclassValue? : Default → Option String
  | missing => none
  | emptyList => some (call "field" ["default_factory=list"])
  | value literal => some literal

/-- The name of an attribute in the data, if its field has another. -/
def otherName? (a : Attribute) : Option String :=
  if identifier a.name = a.name then none else some a.name

/-- The declared value of a field in a class that checks. -/
def checkedValue (m : DataModel) (a : Attribute) : String :=
  call "Field"
    (((default m a).argument?).getD "..." ::
      ((otherName? a).toList.map (textArgument "alias")
        ++ (if a.docstring.isEmpty then []
            else [textArgument "description" (escapeString a.docstring)])
        ++ a.term.toList.map fun term =>
            "json_schema_extra=\x7b\"term\": \"" ++ escapeString term ++ "\"\x7d"))

def isObjectType (m : DataModel) (dtype : String) : Bool :=
  match m.classify dtype with
  | .object _ => true
  | _ => false

/-- Whether an attribute is an attribute of its element in XML too. -/
def isXmlAttribute (m : DataModel) (a : Attribute) : Bool :=
  a.xml.isAttribute && !a.multiple && !a.dtypes.any (isObjectType m)

/-- The declared value of a field in a class for XML. -/
def xmlValue (m : DataModel) (a : Attribute) : String :=
  let more := (default m a).argument?.toList
  if isXmlAttribute m a then call "attr" (textArgument "name" a.xml.name :: more)
  else call "element" (textArgument "tag" a.xml.name :: more)

/-- The declared value of the field for an attribute. -/
def declaredValue? (style : ClassStyle) (m : DataModel) (a : Attribute) : Option String :=
  match style with
  | .pydantic => some (checkedValue m a)
  | .pydanticXml => some (xmlValue m a)
  | .dataclass => (default m a).dataclassValue?

/-- The declaration of the field for an attribute. -/
def fieldLine (style : ClassStyle) (m : DataModel) (a : Attribute) : String :=
  let f := field m a
  f.name ++ ": " ++ f.annotation ++
    match declaredValue? style m a with
    | some value => " = " ++ value
    | none => ""

/-- Whether the field for an attribute has no default. -/
def needsValue (a : Attribute) : Bool := a.isRequired && !a.multiple && a.default?.isNone

/-- The attributes in the order of their fields. -/
def fieldOrder (style : ClassStyle) (as : List Attribute) : List Attribute :=
  match style with
  | .dataclass => as.filter needsValue ++ as.filter (!needsValue ·)
  | _ => as

def docText (docstring : String) : String :=
  "\"\"\"" ++ escapeString (oneLine docstring) ++ "\"\"\""

/-- The lines that begin the class of an object. -/
def classLines (style : ClassStyle) (name : String) : List String :=
  match style with
  | .pydantic => ["class " ++ name ++ "(BaseModel):"]
  | .pydanticXml =>
    ["class " ++ name ++ "(BaseXmlModel, tag=\"" ++ name ++ "\", search_mode=\"unordered\"):"]
  | .dataclass => ["@dataclass", "class " ++ name ++ ":"]

/-- What stands in the class of an object. -/
def bodyLines (style : ClassStyle) (m : DataModel) (o : Object) : List String :=
  (if o.docstring.isEmpty then [] else ["    " ++ docText o.docstring, ""])
    ++ (if style = .pydantic then
          ["    model_config = ConfigDict(populate_by_name=True)", ""]
        else [])
    ++ (fieldOrder style o.attributes).map fun a => "    " ++ fieldLine style m a

def renderObject (style : ClassStyle) (m : DataModel) (o : Object) : String :=
  let body := bodyLines style m o
  unlines (classLines style o.name)
    ++ (if body.isEmpty then "    pass"
        else onChars (dropEndWhile (· == '\n')) (unlines body))
    ++ "\n"

def renderEnumeration (e : Enumeration) : String :=
  unlines
    (("class " ++ e.name ++ "(str, Enum):")
      :: (if e.docstring.isEmpty then [] else ["    " ++ docText e.docstring, ""])
      ++ (if e.mappings.isEmpty then ["    pass"] else [])
      ++ e.mappings.entries.map fun entry =>
          "    " ++ identifier entry.1 ++ " = " ++ textLiteral entry.2)

/-- The types of points in time that a model needs. -/
def timeTypes (m : DataModel) : List String :=
  (if m.mentionsPrimitive [.date] then ["date"] else [])
    ++ if m.mentionsPrimitive [.dateTime] then ["datetime"] else []

/-- What a style imports beside the standard library. -/
def libraryLines : ClassStyle → List String
  | .pydantic => ["", "from pydantic import BaseModel, ConfigDict, Field"]
  | .pydanticXml => ["", "from pydantic_xml import BaseXmlModel, attr, element"]
  | .dataclass => []

def importLines (style : ClassStyle) (m : DataModel) : List String :=
  let times := timeTypes m
  ["from __future__ import annotations", ""]
    ++ (if style = .dataclass then ["from dataclasses import dataclass, field"] else [])
    ++ (if times.isEmpty then []
        else ["from datetime import " ++ String.intercalate ", " times])
    ++ (if m.enums.isEmpty then [] else ["from enum import Enum"])
    ++ ["from typing import Any, List, Optional, Union"] ++ libraryLines style

/-- The lines after the classes, which complete references to later ones. -/
def closingLines (style : ClassStyle) (m : DataModel) : List String :=
  if style = .dataclass || m.objects.isEmpty then []
  else "" :: "" :: m.objects.map (·.name ++ ".model_rebuild()")

/-- A model as classes of a style. -/
def render (style : ClassStyle) (m : DataModel) : String :=
  unlines (importLines style m)
    ++ String.join
      ((m.enums.map renderEnumeration ++ m.objects.map (renderObject style m)).map ("\n\n" ++ ·))
    ++ unlines (closingLines style m)

end Target.Python
end DocModel

import DocModel.Target.Layout
import DocModel.Text.Escape

/-!
# DocModel.Target.Golang

Structures of Go with tags for JSON and XML, and constants for the members of enumerations.

* There are no unions: a field has the first type of its attribute.
* A reference to an object is a pointer, and so is a value that may be missing.
* Names and types stand in columns, which are as wide as the longest text in bytes.
-/

namespace DocModel
namespace Target.Golang

open Text

/-- A field of a structure. -/
structure Field where
  name : String
  type : String
  /-- How it is written in JSON and XML. -/
  tag : String
  deriving DecidableEq, Repr

/-- A constant for a member of an enumeration. -/
structure Constant where
  name : String
  value : String
  deriving DecidableEq, Repr

/-- The type of points in time. -/
def timeType : String := "time.Time"

def primitiveType : Primitive → String
  | .string | .identifier => "string"
  | .integer => "int64"
  | .float | .number => "float64"
  | .boolean => "bool"
  | .bytes => "[]byte"
  | .date | .dateTime => timeType

def fieldType (m : DataModel) (a : Attribute) : String :=
  let held := a.held m primitiveType "interface\x7b\x7d"
  if a.multiple then "[]" ++ held.type
  else if held.isObject || !a.isRequired then "*" ++ held.type
  else held.type

def fieldTag (a : Attribute) : String :=
  let leaveOut := if a.isRequired then "" else ",omitempty"
  let xml := if a.xml.isAttribute then a.xml.name ++ ",attr" else a.xml.name
  "\x60json:\"" ++ a.name ++ leaveOut ++ "\" xml:\"" ++ xml ++ leaveOut ++ "\"\x60"

def field (m : DataModel) (a : Attribute) : Field :=
  { name := pascalCase a.name, type := fieldType m a, tag := fieldTag a }

def fields (m : DataModel) (o : Object) : List Field := o.attributes.map (field m)

def columnWidth (texts : List String) : Nat :=
  (texts.map fun text => byteLength text.toList).foldl max 0

def fieldLines (fs : List Field) : List String :=
  let names := columnWidth (fs.map (·.name))
  let types := columnWidth (fs.map (·.type))
  fs.map fun f => "\t" ++ padRight names f.name ++ " " ++ padRight types f.type ++ " " ++ f.tag

/-- The comment above a definition of a name. -/
def comment (name docstring : String) : String := commentLines (name ++ " " ++ docstring) "// " ""

def renderObject (m : DataModel) (o : Object) : String :=
  let name := pascalCase o.name
  (if o.docstring.isEmpty then "// " ++ name ++ " is generated from the data model.\n"
    else comment name o.docstring)
    ++ unlines (("type " ++ name ++ " struct \x7b") :: fieldLines (fields m o) ++ ["\x7d"])

def constants (e : Enumeration) : List Constant :=
  e.mappings.entries.map fun entry =>
    { name := pascalCase e.name ++ pascalCase entry.1, value := entry.2 }

/-- The block of constants of a type. -/
def constantLines (type : String) (cs : List Constant) : List String :=
  let names := columnWidth (cs.map (·.name))
  if cs.isEmpty then []
  else
    ["", "const ("]
      ++ (cs.map fun c => "\t" ++ padRight names c.name ++ " " ++ type ++ " = " ++ quoted c.value)
      ++ [")"]

/-- An enumeration: a type of strings with constants. -/
def renderEnumeration (e : Enumeration) : String :=
  let name := pascalCase e.name
  (if e.docstring.isEmpty then "" else comment name e.docstring)
    ++ unlines (("type " ++ name ++ " string") :: constantLines name (constants e))

def packageName (m : DataModel) : String :=
  m.word fun title => onChars (replaceChar '_' []) (snakeCase title)

/-- Whether the package for time is imported. -/
def importsTime (m : DataModel) : Bool := m.mentionsPrimitive [.date, .dateTime]

def render (m : DataModel) : String :=
  withDefinitions
    ("package " ++ packageName m ++ "\n" ++ if importsTime m then "\nimport \"time\"\n" else "")
    (m.objects.map (renderObject m) ++ m.enums.map renderEnumeration)

end Target.Golang
end DocModel

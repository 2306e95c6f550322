import DocModel.Target.Layout

/-!
# DocModel.Target.Protobuf

Protocol buffers: a message for every object and an enumeration for every enumeration.

* There are no unions: a field has the first type of its attribute.
* Fields are numbered from one in the order of the attributes.
* An enumeration begins with a value zero that stands for none of its members.
-/

namespace DocModel
namespace Target.Protobuf

open Text

/-- A field of a message. -/
structure Field where
  docstring : String
  /-- What stands before its type. -/
  label : String
  type : String
  name : String
  number : Nat
  deriving DecidableEq, Repr

/-- A value of an enumeration. -/
structure EnumValue where
  name : String
  number : Nat
  /-- The text that it stands for. -/
  text : Option String
  deriving DecidableEq, Repr

def primitiveType : Primitive → String
  | .string | .identifier | .date | .dateTime => "string"
  | .integer => "int64"
  | .float | .number => "double"
  | .boolean => "bool"
  | .bytes => "bytes"

def field (m : DataModel) (a : Attribute) (number : Nat) : Field :=
  let held := a.held m primitiveType "string"
  { docstring := a.docstring
    label :=
      if a.multiple then "repeated "
      else if held.isValue && !a.isRequired then "optional "
      else ""
    type := held.type, name := snakeCase a.name, number }

/-- The fields for the attributes of an object. -/
def fields (m : DataModel) (o : Object) : List Field :=
  o.attributes.mapIdx fun i a => field m a (i + 1)

def Field.render (f : Field) : String :=
  commentLines f.docstring "// " "  "
    ++ "  " ++ f.label ++ f.type ++ " " ++ f.name ++ " = " ++ natText f.number ++ ";\n"

def renderObject (m : DataModel) (o : Object) : String :=
  commentLines o.docstring "// " ""
    ++ "message " ++ pascalCase o.name ++ " \x7b\n"
    ++ String.join ((fields m o).map (·.render)) ++ "\x7d\n"

def valueName (enumeration word : String) : String :=
  screamingSnakeCase enumeration ++ "_" ++ word

def enumValues (e : Enumeration) : List EnumValue :=
  { name := valueName e.name "UNSPECIFIED", number := 0, text := none } ::
    e.mappings.entries.mapIdx fun i entry =>
      { name := valueName e.name (screamingSnakeCase entry.1), number := i + 1
        text := some entry.2 }

/-- A value of an enumeration as a line. -/
def EnumValue.line (v : EnumValue) : String :=
  "  " ++ v.name ++ " = " ++ natText v.number ++ ";" ++
    match v.text with
    | some text => " // " ++ text
    | none => ""

def renderEnumeration (e : Enumeration) : String :=
  commentLines e.docstring "// " ""
    ++ unlines
      (("enum " ++ pascalCase e.name ++ " \x7b") :: (enumValues e).map (·.line) ++ ["\x7d"])

def render (m : DataModel) : String :=
  withDefinitions ("syntax = \"proto3\";\n\npackage " ++ m.slug ++ ";\n")
    (m.objects.map (renderObject m) ++ m.enums.map renderEnumeration)

end Target.Protobuf
end DocModel

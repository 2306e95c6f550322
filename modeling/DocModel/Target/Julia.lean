import DocModel.Target.Layout
import DocModel.Text.Escape

/-!
# DocModel.Target.Julia

A module of Julia with a structure for every object. An enumeration comes with a dictionary from its
members to their values, named in capital letters after it.

* Several types are a union.
* What may be missing has `Nothing` among its types and is `nothing` if not given.
-/

namespace DocModel
namespace Target.Julia

open Text

def primitiveType : Primitive → String
  | .string | .identifier => "String"
  | .integer => "Int64"
  | .float | .number => "Float64"
  | .boolean => "Bool"
  | .bytes => "Vector\x7bUInt8\x7d"
  | .date => "Date"
  | .dateTime => "DateTime"

def applied (constructor : String) (parameters : List String) : String :=
  constructor ++ "\x7b" ++ String.intercalate "," parameters ++ "\x7d"

def fieldType (m : DataModel) (a : Attribute) : String :=
  let names := unique (a.dtypes.map (m.typeName primitiveType id))
  let value :=
    match names with
    | [] => "Any"
    | [name] => name
    | _ => applied "Union" names
  if a.multiple then applied "Vector" [value]
  else if a.isRequired then value
  else if 1 < names.length then applied "Union" (names ++ ["Nothing"])
  else applied "Union" [value, "Nothing"]

/-- The primitive types whose values are written without quotes. -/
def bareTypes : List Primitive := [.integer, .float, .number, .boolean]

/-- Whether the values of a type are written without quotes. -/
def isBare (m : DataModel) (dtype : String) : Bool :=
  match m.classify dtype with
  | .primitive p => bareTypes.contains p
  | _ => false

def literal (text : String) : String := "\"" ++ escapeString text ++ "\""

/-- The default value of the field for an attribute. -/
def fieldDefault? (m : DataModel) (a : Attribute) : Option String :=
  if a.multiple then some (fieldType m a ++ "()")
  else
    match a.default? with
    | some value =>
      if a.dtypes.any (isBare m) then some (asciiLowercase value)
      else some (literal (onChars (trimWhere (· == '"')) value))
    | none => if a.isRequired then none else some "nothing"

def fieldLine (m : DataModel) (a : Attribute) : String :=
  "    " ++ a.name ++ "::" ++ fieldType m a ++
    match fieldDefault? m a with
    | some value => " = " ++ value
    | none => ""

def docLines (docstring : String) : List String :=
  if docstring.isEmpty then [] else ["\"\"\"", docstring, "\"\"\""]

def renderObject (m : DataModel) (o : Object) : String :=
  unlines
    (docLines o.docstring ++ ("Base.@kwdef mutable struct " ++ o.name) ::
      o.attributes.map (fieldLine m) ++ ["end"])

def dictionaryName (e : Enumeration) : String := onChars Unicode.uppercase e.name ++ "_VALUES"

def renderEnumeration (e : Enumeration) : String :=
  unlines
    (docLines e.docstring
      ++ ["@enum " ++ e.name ++ " " ++ String.intercalate " " e.mappings.names,
          "",
          "const " ++ dictionaryName e ++ " = " ++ applied "Dict" [e.name, "String"] ++ "("]
      ++ (e.mappings.entries.map fun entry =>
          "    " ++ entry.1 ++ " => " ++ literal entry.2 ++ ",")
      ++ [")"])

def moduleName (m : DataModel) : String := pascalCase m.title

def header (m : DataModel) : String :=
  let exports := m.typeNames
  "module " ++ moduleName m ++ "\n"
    ++ (if m.mentionsPrimitive [.date, .dateTime] then "\nusing Dates\n" else "")
    ++ if exports.isEmpty then "" else "\nexport " ++ String.intercalate ", " exports ++ "\n"

def render (m : DataModel) : String :=
  withDefinitions (header m)
    (m.enums.map renderEnumeration ++ m.objects.map (renderObject m)
      ++ ["end # module " ++ moduleName m ++ "\n"])

end Target.Julia
end DocModel

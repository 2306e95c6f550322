import DocModel.Target.Layout
import DocModel.Text.Escape

/-!
# DocModel.Target.TypeScript.Declaration

The static types of TypeScript: an interface for every object, and a union of literals for every
enumeration. What checks values while a program runs is declared beside them.
-/

namespace DocModel
namespace Target.TypeScript

open Text

def primitiveType : Primitive → String
  | .string | .identifier | .bytes | .date | .dateTime => "string"
  | .integer | .float | .number => "number"
  | .boolean => "boolean"

def docComment (docstring indent : String) : String :=
  if docstring.isEmpty then ""
  else if docstring.toList.contains '\n' then
    indent ++ "/**\n" ++ commentLines docstring " * " indent ++ indent ++ " */\n"
  else indent ++ "/** " ++ docstring ++ " */\n"

def fieldType (m : DataModel) (a : Attribute) : String :=
  let names := unique (a.dtypes.map (m.typeName primitiveType id))
  let value := if names.isEmpty then "unknown" else String.intercalate " | " names
  if a.multiple then
    if 1 < names.length then "(" ++ value ++ ")[]" else value ++ "[]"
  else value

/-- The member of an interface for an attribute. -/
def renderField (m : DataModel) (a : Attribute) : String :=
  docComment a.docstring "  " ++ "  " ++ a.name ++ (if a.isRequired then "" else "?") ++ ": "
    ++ fieldType m a ++ ";\n"

def renderInterface (m : DataModel) (o : Object) : String :=
  docComment o.docstring "" ++ "export interface " ++ o.name ++ " \x7b\n"
    ++ String.join (o.attributes.map (renderField m)) ++ "\x7d\n"

/-- The values of an enumeration as literals. -/
def literals (e : Enumeration) : List String := e.mappings.values.map quoted

/-- The type of the values of an enumeration. -/
def renderLiterals (e : Enumeration) : String :=
  let values := literals e
  docComment e.docstring "" ++ "export type " ++ e.name ++ " = "
    ++ (if values.isEmpty then "never" else String.intercalate " | " values) ++ ";\n"

/-- A constant with something that checks values of a type. -/
def renderChecker (name checker type : String) (value : String) : String :=
  "export const " ++ name ++ checker ++ ": " ++ type ++ "<" ++ name ++ "> = " ++ value ++ ";\n"

end Target.TypeScript
end DocModel

import DocModel.Target.Layout

/-!
# DocModel.Target.Graphql

A schema of GraphQL.

* Unions join objects only: a field has the first type of its attribute.
* Identifiers have the type `ID`, and an exclamation mark follows what is never missing.
* A description on one line is a string, one on several lines is a block string.
-/

namespace DocModel
namespace Target.Graphql

open Text

def primitiveType : Primitive → String
  | .identifier => "ID"
  | .string | .bytes | .date | .dateTime => "String"
  | .integer => "Int"
  | .float | .number => "Float"
  | .boolean => "Boolean"

/-- The type of a single value of an attribute. -/
def valueType (m : DataModel) (a : Attribute) : String :=
  if a.isId then "ID"
  else
    match a.primaryType? with
    | some dtype => m.typeName primitiveType id dtype
    | none => "String"

def fieldType (m : DataModel) (a : Attribute) : String :=
  let mark := if a.isRequired then "!" else ""
  if a.multiple then "[" ++ valueType m a ++ "!]" ++ mark else valueType m a ++ mark

/-- The marks around a block string. -/
def blockQuotes : String := "\"\"\""

def description (docstring indent : String) : String :=
  if docstring.isEmpty then ""
  else if docstring.toList.contains '\n' then
    indent ++ blockQuotes ++ "\n"
      ++ indent ++ onChars (replaceChar '\n' ('\n' :: indent.toList)) docstring ++ "\n"
      ++ indent ++ blockQuotes ++ "\n"
  else indent ++ "\"" ++ onChars (replaceChar '"' ['\\', '"']) docstring ++ "\"\n"

def renderField (m : DataModel) (a : Attribute) : String :=
  description a.docstring "  " ++ "  " ++ a.name ++ ": " ++ fieldType m a ++ "\n"

def renderObject (m : DataModel) (o : Object) : String :=
  description o.docstring "" ++ "type " ++ o.name ++ " \x7b\n"
    ++ String.join (o.attributes.map (renderField m)) ++ "\x7d\n"

def renderEnumeration (e : Enumeration) : String :=
  description e.docstring ""
    ++ unlines (("enum " ++ e.name ++ " \x7b") :: e.mappings.names.map ("  " ++ ·) ++ ["\x7d"])

def render (m : DataModel) : String :=
  String.intercalate "\n" (m.objects.map (renderObject m) ++ m.enums.map renderEnumeration)

end Target.Graphql
end DocModel

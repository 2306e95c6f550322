import DocModel.Target.Rdf
import DocModel.Yaml.Writer

/-!
# DocModel.Target.Linkml

A model as a LinkML schema: objects become classes with their attributes inside, enumerations lists
of permissible values. An attribute with several types gets a list of ranges.
-/

namespace DocModel
namespace Target.Linkml

open Yaml (Value)

/-- Named values in the order in which their names came first. -/
abbrev Fields := List (String × Value)

/-- The fields with one more; a field of the same name keeps its place and gets the new value. -/
def setField (name : String) (value : Value) : Fields → Fields
  | [] => [(name, value)]
  | (other, kept) :: rest =>
    if other == name then (name, value) :: rest else (other, kept) :: setField name value rest

/-- The fields with those of a list put in one after the other. -/
def fieldsOf (entries : Fields) : Fields :=
  entries.foldl (fun fields entry => setField entry.1 entry.2 fields) []

/-- A field with a text, if there is one. -/
def textField (name : String) (text : Option String) : Fields :=
  text.toList.map fun s => (name, .string s)

/-- A field with a description, unless it is empty. -/
def description (docstring : String) : Fields :=
  if docstring.isEmpty then [] else [("description", .string docstring)]

/-- A field that is true, if so. -/
def flag (name : String) (value : Bool) : Fields := if value then [(name, .bool true)] else []

/-- The type of LinkML for a primitive type. -/
def primitiveRange : Primitive → String
  | .string | .identifier | .bytes => "string"
  | .integer => "integer"
  | .float => "float"
  | .number => "decimal"
  | .boolean => "boolean"
  | .date => "date"
  | .dateTime => "datetime"

def range (m : DataModel) (dtype : String) : String :=
  match m.classify dtype with
  | .primitive p => primitiveRange p
  | .object name => name
  | .enumeration name => name
  | .unknown name => name

def ranges (m : DataModel) (a : Attribute) : Fields :=
  match a.dtypes with
  | [] => []
  | [single] => [("range", .string (range m single))]
  | many =>
    let alternative (dtype : String) : Value := .mapping [("range", .string (range m dtype))]
    [("any_of", .sequence (many.map alternative))]

/-- A bound: a number if it is one, otherwise the text. -/
def bound (text : String) : Value :=
  match Number.integer? text.toList with
  | some n => .int n
  | none =>
    match Number.Double.read? text.toList with
    | some x => .float x
    | none => .string text

def slot (m : DataModel) (a : Attribute) : Value :=
  .mapping
    (description a.docstring ++ textField "slot_uri" a.term ++ flag "identifier" a.isId
      ++ ranges m a ++ flag "required" a.required ++ flag "multivalued" a.multiple
      ++ textField "ifabsent" (a.default?.map fun value => "string(" ++ value ++ ")")
      ++ ((a.option? "minimum").toList.map fun value => ("minimum_value", bound value))
      ++ ((a.option? "maximum").toList.map fun value => ("maximum_value", bound value))
      ++ textField "pattern" (a.option? "pattern"))

/-- An object; the first one is the root of a document. -/
def classValue (m : DataModel) (o : Object) (isRoot : Bool) : Value :=
  .mapping
    (description o.docstring ++ flag "tree_root" isRoot
      ++ [("attributes", .mapping (fieldsOf (o.attributes.map fun a => (a.name, slot m a))))])

def enumValue (e : Enumeration) : Value :=
  .mapping
    (description e.docstring
      ++ [("permissible_values",
            .mapping (e.mappings.entries.map fun entry =>
              (entry.1, .mapping [("meaning", .string entry.2)])))])

def prefixFields (m : DataModel) (defaultPrefix : String) : Fields :=
  let start := fieldsOf
    [("linkml", .string "https://w3id.org/linkml/"), (defaultPrefix, .string (Rdf.baseIri m))]
  (m.config.prefixes.entries ++ m.config.nsmap.entries).foldl
    (fun fields entry =>
      if fields.any (·.1 == entry.1) then fields else fields ++ [(entry.1, .string entry.2)])
    start

def classFields (m : DataModel) : Fields :=
  fieldsOf (m.objects.zipIdx.map fun (o, i) => (o.name, classValue m o (i == 0)))

def schema (m : DataModel) : Value :=
  let defaultPrefix := m.config.ownPrefix.getD m.slug
  .mapping
    ([("id", .string (Rdf.baseIri m)), ("name", .string m.slug)] ++ textField "title" m.name
      ++ [("prefixes", .mapping (prefixFields m defaultPrefix)),
          ("default_prefix", .string defaultPrefix), ("default_range", .string "string"),
          ("imports", .sequence [.string "linkml:types"])]
      ++ (if m.objects.isEmpty then [] else [("classes", .mapping (classFields m))])
      ++ (if m.enums.isEmpty then []
          else [("enums", .mapping (fieldsOf (m.enums.map fun e => (e.name, enumValue e))))]))

/-- A model as the text of a schema. -/
def render (m : DataModel) : String := Yaml.write (schema m)

end Target.Linkml
end DocModel

import DocModel.Dialect.Entry
import DocModel.Model.Basic
import DocModel.Yaml.Writer

/-!
# DocModel.Target.Markdown

A model in the dialect again, in its normal form.

| Part         | Normal form                                                  |
|--------------|--------------------------------------------------------------|
| front matter | only if something is set                                     |
| order        | objects before enumerations                                  |
| identifier   | `- __name__`                                                 |
| types        | primitive types bare, others as `[Name](#name)`              |
| unions       | ` \| ` between the types, `[]` once at the end               |
| required     | only if it is                                                |
| XML          | only if it is not the element of the attribute's name        |
| members      | in the order of their names                                  |
-/

namespace DocModel
namespace Target.Markdown

open Text

/-- The settings as a YAML value, without those that are not set. -/
def configValue (c : Config) : Yaml.Value :=
  let text (name : String) (value : Option String) : List (String × Yaml.Value) :=
    value.toList.map fun s => (name, .string s)
  let dictionary (name : String) (d : Dictionary) : List (String × Yaml.Value) :=
    if d.isEmpty then [] else [(name, .mapping (d.entries.map fun e => (e.1, .string e.2)))]
  .mapping
    ((if c.idField then [("id-field", .bool true)] else []) ++ text "repo" c.repo
      ++ text "prefix" c.ownPrefix ++ dictionary "prefixes" c.prefixes
      ++ dictionary "nsmap" c.nsmap)

/-- A type: a link to its definition, or its name. -/
def typeLink (m : DataModel) (dtype : String) : String :=
  match m.classify dtype with
  | .object name => "[" ++ name ++ "](" ++ Dialect.headingAnchor name ++ ")"
  | .enumeration name => "[" ++ name ++ "](" ++ Dialect.headingAnchor name ++ ")"
  | _ => dtype

def typeText? (m : DataModel) (a : Attribute) : Option String :=
  if a.dtypes.isEmpty && !a.multiple then none
  else
    some (String.intercalate " | " (a.dtypes.map (typeLink m)) ++ if a.multiple then "[]" else "")

/-- The text of the bullet of an attribute. -/
def nameText (a : Attribute) : String := if a.isId then "__" ++ a.name ++ "__" else a.name

/-- The properties of an attribute in order. -/
def properties (m : DataModel) (a : Attribute) : List (String × String) :=
  ((typeText? m a).toList.map fun value => ("Type", value))
    ++ (a.term.toList.map fun value => ("Term", value))
    ++ (if a.docstring.isEmpty then [] else [("Description", a.docstring)])
    ++ (if a.required then [("Required", "true")] else [])
    ++ (if a.xml = XmlHint.ofElement a.name then [] else [("XML", a.xml.toText)])
    ++ a.options.map fun o => (o.key, o.value)

def attributeLines (m : DataModel) (a : Attribute) : List String :=
  ("- " ++ nameText a) :: (properties m a).map fun p => "  - " ++ p.1 ++ ": " ++ p.2

/-- The heading and the description of a definition. -/
def heading (name docstring : String) : String :=
  "### " ++ name ++ "\n" ++ if docstring.isEmpty then "" else "\n" ++ docstring ++ "\n"

def renderObject (m : DataModel) (o : Object) : String :=
  heading o.name o.docstring ++
    if o.attributes.isEmpty then "" else "\n" ++ unlines (o.attributes.flatMap (attributeLines m))

/-- A member of an enumeration. A value with a double quote stands between single quotes. -/
def memberLine (entry : String × String) : String :=
  let quote := if entry.2.toList.contains '"' then "'" else "\""
  entry.1 ++ " = " ++ quote ++ entry.2 ++ quote

def memberLines (e : Enumeration) : List String := e.mappings.entries.map memberLine

/-- The mark of a code block. -/
def fence : String := "\x60\x60\x60"

def renderEnumeration (e : Enumeration) : String :=
  heading e.name e.docstring ++ "\n" ++ fence ++ "python\n" ++ unlines (memberLines e) ++ fence
    ++ "\n"

def render (m : DataModel) : String :=
  let front :=
    if m.config.isDefault then []
    else ["---\n" ++ Yaml.write (configValue m.config) ++ "---\n"]
  let title := m.name.toList.map fun name => "# " ++ name ++ "\n"
  String.intercalate "\n"
    (front ++ title ++ m.objects.map (renderObject m) ++ m.enums.map renderEnumeration)

end Target.Markdown
end DocModel

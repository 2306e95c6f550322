import DocModel.Target.Layout

/-!
# DocModel.Target.Rust

Structures and enumerations of Rust that read and write the data with serde.

* There are no unions: a field has the first type of its attribute.
* A reference to an object is boxed, so that models with cycles have a size.
* A field is named in small letters with underscores. Where that is not the name of the attribute,
  the field carries it (`Field.rename`), so that `Field.wireName` is always the attribute's name.
-/

namespace DocModel
namespace Target.Rust

open Text

/-- The words that are no identifiers. -/
def keywords : List String :=
  ["as", "async", "await", "break", "const", "continue", "crate", "dyn", "else", "enum",
   "extern", "false", "fn", "for", "if", "impl", "in", "let", "loop", "match", "mod", "move",
   "mut", "pub", "ref", "return", "self", "static", "struct", "super", "trait", "true", "type",
   "unsafe", "use", "where", "while"]

/-- The keywords that cannot be marked as identifiers. -/
def pathKeywords : List String := ["crate", "self", "super"]

/-- The mark of an identifier that would be a keyword. -/
def rawMark : String := "r#"

/-- A text without marks in front. -/
def withoutRawMarks : List Char → List Char
  | 'r' :: '#' :: rest => withoutRawMarks rest
  | name => name

/-- The identifier for a name in small letters. -/
def identifier (name : String) : String :=
  if pathKeywords.contains name then name ++ "_"
  else if keywords.contains name then rawMark ++ name
  else name

def fieldName (name : String) : String := identifier (snakeCase name)

/-- The name in the data of a field that carries no other. -/
def plainWireName (field : String) : String := onChars withoutRawMarks field

/-- When a field is left out of the data. -/
inductive Omission where
  | never
  /-- If the list is empty. -/
  | ofEmptyList
  /-- If there is no value. -/
  | ofMissingValue
  deriving DecidableEq, Repr

/-- A field of a structure. -/
structure Field where
  docstring : String
  name : String
  /-- Its name in the data, if that is another. -/
  rename : Option String
  /-- When it is left out. -/
  omission : Omission
  type : String
  deriving DecidableEq, Repr

def Field.wireName (f : Field) : String := f.rename.getD (plainWireName f.name)

def primitiveType : Primitive → String
  | .string | .identifier | .date | .dateTime => "String"
  | .integer => "i64"
  | .float | .number => "f64"
  | .boolean => "bool"
  | .bytes => "Vec<u8>"

def applied (constructor parameter : String) : String := constructor ++ "<" ++ parameter ++ ">"

def fieldType (m : DataModel) (a : Attribute) : String :=
  let held := a.held m primitiveType "serde_json::Value"
  if a.multiple then applied "Vec" held.type
  else
    let single := if held.isObject then applied "Box" held.type else held.type
    if a.isRequired then single else applied "Option" single

/-- When the field for an attribute is left out. -/
def omission (a : Attribute) : Omission :=
  if a.multiple then .ofEmptyList
  else if a.isRequired then .never
  else .ofMissingValue

def field (m : DataModel) (a : Attribute) : Field :=
  let name := fieldName a.name
  { docstring := a.docstring, name
    rename := if plainWireName name = a.name then none else some a.name
    omission := omission a, type := fieldType m a }

/-- What is said about leaving a field out. -/
def Omission.arguments : Omission → List String
  | never => []
  | ofEmptyList => ["default", "skip_serializing_if = \"Vec::is_empty\""]
  | ofMissingValue => ["default", "skip_serializing_if = \"Option::is_none\""]

/-- What is said about the data of a field. -/
def Field.arguments (f : Field) : List String :=
  (f.rename.toList.map fun name => "rename = \"" ++ name ++ "\"") ++ f.omission.arguments

/-- A field of a structure as text. -/
def Field.render (f : Field) : String :=
  let arguments := f.arguments
  commentLines f.docstring "/// " "    "
    ++ (if arguments.isEmpty then ""
        else "    #[serde(" ++ String.intercalate ", " arguments ++ ")]\n")
    ++ "    pub " ++ f.name ++ ": " ++ f.type ++ ",\n"

def renderObject (m : DataModel) (o : Object) : String :=
  commentLines o.docstring "/// " ""
    ++ "#[derive(Debug, Clone, PartialEq, Serialize, Deserialize)]\n"
    ++ "pub struct " ++ pascalCase o.name ++ " \x7b\n"
    ++ String.join (o.attributes.map fun a => (field m a).render) ++ "\x7d\n"

/-- The text of a value between double quotes. -/
def valueText (value : String) : String := onChars (replaceChar '"' ['\\', '"']) value

def renderMember (entry : String × String) : String :=
  "    #[serde(rename = \"" ++ valueText entry.2 ++ "\")]\n    " ++ pascalCase entry.1 ++ ",\n"

def renderEnumeration (e : Enumeration) : String :=
  commentLines e.docstring "/// " ""
    ++ "#[derive(Debug, Clone, Copy, PartialEq, Eq, Hash, Serialize, Deserialize)]\n"
    ++ "pub enum " ++ pascalCase e.name ++ " \x7b\n"
    ++ String.join (e.mappings.entries.map renderMember) ++ "\x7d\n"

def render (m : DataModel) : String :=
  withDefinitions "use serde::\x7bDeserialize, Serialize\x7d;\n"
    (m.objects.map (renderObject m) ++ m.enums.map renderEnumeration)

end Target.Rust
end DocModel

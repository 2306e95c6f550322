import DocModel.Model.Basic
import DocModel.Text.Words

/-!
# DocModel.Target.Layout

What the formats that declare types have in common.

* `DataModel.slug` is a name for a whole document;
* `DataModel.typeName` writes the name of a type, given how primitive types and defined types are
  written;
* `Attribute.held` is for formats without unions: they take the first of the types;
* `withDefinitions` puts an empty line before every definition.
-/

namespace DocModel

open Text

/-- The title as a word, or another word if nothing of it is left. -/
def DataModel.word (m : DataModel) (write : String → String) : String :=
  let name := (m.name.map write).getD ""
  if name.isEmpty then "model" else name

/-- The title of a model as one word in small letters. -/
def DataModel.slug (m : DataModel) : String := m.word snakeCase

/-- The name of a type, where primitive types and defined types are written so. -/
def DataModel.typeName (m : DataModel) (primitive : Primitive → String)
    (defined : String → String) (dtype : String) : String :=
  match m.classify dtype with
  | .primitive p => primitive p
  | .object name => defined name
  | .enumeration name => defined name
  | .unknown name => defined name

namespace Target

/-- What a field holds. -/
inductive Held where
  /-- A value of a primitive type. -/
  | value (type : String)
  /-- A member of an enumeration. -/
  | member (type : String)
  | object (type : String)
  deriving DecidableEq, Repr

def Held.type : Held → String
  | value type => type
  | member type => type
  | object type => type

def Held.isObject : Held → Bool
  | object _ => true
  | _ => false

def Held.isValue : Held → Bool
  | value _ => true
  | _ => false

/-- The header, then every definition after an empty line. -/
def withDefinitions (header : String) (definitions : List String) : String :=
  header ++ String.join (definitions.map ("\n" ++ ·))

end Target

/-- What a field for an attribute holds if it has only the first of the types. -/
def Attribute.held (a : Attribute) (m : DataModel) (primitive : Primitive → String)
    (untyped : String) : Target.Held :=
  match a.primaryType? with
  | none => .value untyped
  | some dtype =>
    match m.classify dtype with
    | .primitive p => .value (primitive p)
    | .enumeration name => .member (pascalCase name)
    | .object name => .object (pascalCase name)
    | .unknown name => .object (pascalCase name)

end DocModel

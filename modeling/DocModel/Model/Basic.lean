import DocModel.Model.Primitive
import DocModel.Source.Position
import DocModel.Text.Dictionary

/-!
# DocModel.Model.Basic

A data model: objects with attributes, enumerations with members, and settings. Attributes refer
to types by name, so that models may be cyclic; `DataModel.resolve` looks a name up.

* an object or enumeration of a name hides a primitive type of that name;
* of several definitions of one name the first is found;
* options of an attribute are found by their key, whatever its case.
-/

namespace DocModel

open Text

/-- How an attribute is written in XML. -/
structure XmlHint where
  /-- Whether it is an attribute of the element and not an element of its own. -/
  isAttribute : Bool := false
  name : String := ""
  deriving DecidableEq, Repr, Inhabited

namespace XmlHint

def ofElement (name : String) : XmlHint := { isAttribute := false, name }

def ofAttribute (name : String) : XmlHint := { isAttribute := true, name }

/-- The hint that a text gives: after an at sign it names an attribute, otherwise an element. -/
def read (text : String) : XmlHint :=
  match trim text.toList with
  | '@' :: name => ofAttribute (String.ofList (trim name))
  | name => ofElement (String.ofList name)

/-- The text that gives the hint. -/
def toText (hint : XmlHint) : String :=
  if hint.isAttribute then "@" ++ hint.name else hint.name

end XmlHint

/-- A property of an attribute that has no meaning of its own here. -/
structure AttributeOption where
  key : String
  value : String
  deriving DecidableEq, Repr, Inhabited

/-- A property of an object. -/
structure Attribute where
  name : String := ""
  /-- Whether it holds a list of values. -/
  multiple : Bool := false
  /-- Whether it identifies the object. -/
  isId : Bool := false
  /-- The names of the types of a value; it has one of them. -/
  dtypes : List String := []
  docstring : String := ""
  /-- The term of a vocabulary that it stands for. -/
  term : Option String := none
  /-- Whether it is marked as required. -/
  required : Bool := false
  /-- How it is written in XML. -/
  xml : XmlHint := {}
  /-- Its other properties in order. -/
  options : List AttributeOption := []
  /-- Whether one of its types is an enumeration. -/
  isEnum : Bool := false
  position : SourcePosition := {}
  /-- Where its type is given. -/
  typePosition : Option SourcePosition := none
  /-- Where its term is given. -/
  termPosition : Option SourcePosition := none
  deriving DecidableEq, Inhabited

namespace Attribute

/-- Whether every object has a value for it. -/
def isRequired (a : Attribute) : Bool := a.required || a.isId

/-- The value of the first option of a key. -/
def option? (a : Attribute) (key : String) : Option String :=
  (a.options.find? fun o => equalsIgnoringCase o.key key).map (·.value)

/-- The value that it has when none is given. -/
def default? (a : Attribute) : Option String := a.option? "default"

def primaryType? (a : Attribute) : Option String := a.dtypes.head?

/-- Whether it has several types to choose from. -/
def isUnion (a : Attribute) : Bool := 1 < a.dtypes.length

end Attribute

/-- A type with attributes. -/
structure Object where
  name : String := ""
  docstring : String := ""
  attributes : List Attribute := []
  position : SourcePosition := {}
  deriving DecidableEq, Inhabited

namespace Object

/-- The first attribute of a name. -/
def attribute? (o : Object) (name : String) : Option Attribute :=
  o.attributes.find? (·.name == name)

/-- The attributes for which every instance has a value. -/
def requiredAttributes (o : Object) : List Attribute := o.attributes.filter (·.isRequired)

/-- The attribute that identifies an instance. -/
def identifier? (o : Object) : Option Attribute := o.attributes.find? (·.isId)

end Object

/-- A type whose values are listed. -/
structure Enumeration where
  name : String := ""
  /-- The members with their values. -/
  mappings : Dictionary := .empty
  docstring : String := ""
  position : SourcePosition := {}
  deriving DecidableEq, Inhabited

/-- The settings of a model. -/
structure Config where
  /-- Whether objects get a field that identifies them. -/
  idField : Bool := false
  /-- Where the model is published. -/
  repo : Option String := none
  /-- The prefix of the model's own names. -/
  ownPrefix : Option String := none
  /-- Prefixes and what they stand for. -/
  prefixes : Dictionary := .empty
  nsmap : Dictionary := .empty
  deriving DecidableEq, Inhabited

namespace Config

def isDefault (c : Config) : Bool := c = {}

/-- What a declared prefix stands for; `prefixes` counts before `nsmap`. -/
def base? (c : Config) (name : String) : Option String :=
  (c.prefixes.find? name).or (c.nsmap.find? name)

/-- The full form of a name that is a declared prefix, a colon and the rest. -/
def expand? (c : Config) (term : String) : Option String :=
  match splitOnce ':' term.toList with
  | some (name, rest) => (c.base? (String.ofList name)).map (· ++ String.ofList rest)
  | none => none

/-- Whether a prefix is declared or the model's own. -/
def bindsPrefix (c : Config) (name : String) : Bool :=
  c.prefixes.contains name || c.nsmap.contains name || c.ownPrefix == some name

end Config

/-- A data model. -/
structure DataModel where
  name : Option String := none
  objects : List Object := []
  enums : List Enumeration := []
  config : Config := {}
  deriving DecidableEq, Inhabited

/-- What a name of a type refers to. -/
inductive TypeMeaning where
  | primitive (p : Primitive)
  | object (o : Object)
  | enumeration (e : Enumeration)
  deriving DecidableEq

/-- Whether a type is defined by the model. -/
def TypeMeaning.isReference : TypeMeaning → Bool
  | primitive _ => false
  | _ => true

/-- What kind of type a name denotes. -/
inductive Kind where
  | primitive (p : Primitive)
  | object (name : String)
  | enumeration (name : String)
  /-- None that the model knows. -/
  | unknown (name : String)
  deriving DecidableEq, Repr

namespace DataModel

def isEmpty (m : DataModel) : Bool := m.objects.isEmpty && m.enums.isEmpty

/-- The first object of a name. -/
def object? (m : DataModel) (name : String) : Option Object := m.objects.find? (·.name == name)

/-- The first enumeration of a name. -/
def enumeration? (m : DataModel) (name : String) : Option Enumeration :=
  m.enums.find? (·.name == name)

/-- What the name of a type refers to. -/
def resolve (m : DataModel) (dtype : String) : Option TypeMeaning :=
  match m.object? dtype with
  | some o => some (.object o)
  | none =>
    match m.enumeration? dtype with
    | some e => some (.enumeration e)
    | none => (Primitive.read? dtype).map .primitive

/-- What kind of type a name denotes. -/
def classify (m : DataModel) (dtype : String) : Kind :=
  match m.resolve dtype with
  | some (.primitive p) => .primitive p
  | some (.object o) => .object o.name
  | some (.enumeration e) => .enumeration e.name
  | none => .unknown dtype

/-- The names of the definitions: objects first, then enumerations. -/
def typeNames (m : DataModel) : List String :=
  m.objects.map (·.name) ++ m.enums.map (·.name)

def allAttributes (m : DataModel) : List Attribute := m.objects.flatMap (·.attributes)

/-- Whether some attribute has one of these primitive types. -/
def mentionsPrimitive (m : DataModel) (wanted : List Primitive) : Bool :=
  m.allAttributes.any fun a =>
    a.dtypes.any fun dtype =>
      match m.classify dtype with
      | .primitive p => wanted.contains p
      | _ => false

/-- Whether some attribute has several types to choose from. -/
def hasUnion (m : DataModel) : Bool := m.allAttributes.any (·.isUnion)

/-- The title, or a word in its place. -/
def title (m : DataModel) : String := m.name.getD "Model"

end DataModel
end DocModel

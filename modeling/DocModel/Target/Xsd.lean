import DocModel.Model.Basic
import DocModel.Xml.Element

/-!
# DocModel.Target.Xsd

A model as an XML Schema. Every object becomes a complex type and a global element, every
enumeration a simple type. An attribute has the first of its types; if it is marked as an attribute
for XML and has a single simple value it becomes one, otherwise it is an element.
-/

namespace DocModel
namespace Target.Xsd

open Xml

/-- The name of the type of a definition. -/
def typeName (name : String) : String := name ++ "Type"

/-- The type of XML Schema for a primitive type. -/
def primitiveType : Primitive → String
  | .string | .identifier => "xs:string"
  | .integer => "xs:integer"
  | .float => "xs:double"
  | .number => "xs:decimal"
  | .boolean => "xs:boolean"
  | .bytes => "xs:base64Binary"
  | .date => "xs:date"
  | .dateTime => "xs:dateTime"

/-- The type of an attribute. -/
structure ValueType where
  name : String
  /-- Whether its values are texts. -/
  isSimple : Bool

def valueType (m : DataModel) (a : Attribute) : ValueType :=
  match a.primaryType? with
  | none => ⟨"xs:string", true⟩
  | some dtype =>
    match m.classify dtype with
    | .primitive p => ⟨primitiveType p, true⟩
    | .enumeration name => ⟨typeName name, true⟩
    | .object name => ⟨typeName name, false⟩
    | .unknown name => ⟨typeName name, false⟩

/-- The documentation of something, unless it is empty. -/
def documentation (docstring : String) : List Element :=
  if docstring.isEmpty then []
  else [.parent "xs:annotation" [] [.text "xs:documentation" docstring]]

/-- Whether an attribute of the model becomes an attribute of the element. -/
def isXmlAttribute (m : DataModel) (a : Attribute) : Bool :=
  a.xml.isAttribute && (valueType m a).isSimple && !a.multiple

def elementOf (m : DataModel) (a : Attribute) : Element :=
  let name := if a.xml.isAttribute then a.name else a.xml.name
  let attributes :=
    [("name", name), ("type", (valueType m a).name),
     ("minOccurs", if a.isRequired then "1" else "0"),
     ("maxOccurs", if a.multiple then "unbounded" else "1")]
  if a.docstring.isEmpty then .empty "xs:element" attributes
  else .parent "xs:element" attributes (documentation a.docstring)

def attributeOf (m : DataModel) (a : Attribute) : Element :=
  .empty "xs:attribute"
    [("name", a.xml.name), ("type", (valueType m a).name),
     ("use", if a.isRequired then "required" else "optional")]

def complexType (m : DataModel) (o : Object) : Element :=
  let elements := o.attributes.filter (!isXmlAttribute m ·)
  let sequence :=
    if elements.isEmpty then [] else [.parent "xs:sequence" [] (elements.map (elementOf m))]
  .parent "xs:complexType" [("name", typeName o.name)]
    (documentation o.docstring ++ sequence
      ++ (o.attributes.filter (isXmlAttribute m)).map (attributeOf m))

def globalElement (o : Object) : Element :=
  .empty "xs:element" [("name", o.name), ("type", typeName o.name)]

def simpleType (e : Enumeration) : Element :=
  .parent "xs:simpleType" [("name", typeName e.name)]
    (documentation e.docstring
      ++ [.parent "xs:restriction" [("base", "xs:string")]
            (e.mappings.values.map fun value => .empty "xs:enumeration" [("value", value)])])

def document (m : DataModel) : Document :=
  { name := "xs:schema"
    attributes :=
      [("xmlns:xs", "http://www.w3.org/2001/XMLSchema"), ("elementFormDefault", "qualified")]
    children :=
      m.objects.map globalElement ++ m.objects.map (complexType m) ++ m.enums.map simpleType }

/-- A model as the text of a schema. -/
def render (m : DataModel) : String := (document m).render

end Target.Xsd
end DocModel

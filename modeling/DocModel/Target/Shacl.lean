import DocModel.Target.Rdf

/-!
# DocModel.Target.Shacl

A model as SHACL shapes in Turtle. Every object becomes a shape for the class of its name, every
attribute a property with a constraint for its type; several types become alternatives.
-/

namespace DocModel
namespace Target.Shacl

open Rdf Text

/-- What the values of a property have to be. -/
inductive Constraint where
  | datatype (name : String)
  | node (shape : String)
  | oneOf (literals : List String)
  | ofClass (name : String)

/-- A constraint as it is written. -/
def Constraint.phrase : Constraint → String
  | datatype name => "sh:datatype " ++ name
  | node shape => "sh:node " ++ shape
  | oneOf literals => "sh:in ( " ++ String.intercalate " " literals ++ " )"
  | ofClass name => "sh:class " ++ name

/-- A property of a shape. -/
structure Property where
  path : String
  name : String
  description : String
  /-- What its values have to be, one of these. -/
  constraints : List Constraint
  /-- Whether there is at least one value. -/
  required : Bool
  /-- Whether there may be several. -/
  multiple : Bool

/-- A shape. -/
structure Shape where
  name : String
  /-- The class of its resources. -/
  target : String
  description : String
  properties : List Property

def shapeName (ns : PrefixTable) (object : String) : String := ns.localName (object ++ "Shape")

def constraint (m : DataModel) (ns : PrefixTable) (dtype : String) : Constraint :=
  match m.classify dtype with
  | .primitive p => .datatype (xsdDatatype p)
  | .object name => .node (shapeName ns name)
  | .enumeration name => .oneOf (memberLiterals m name)
  | .unknown name => .ofClass (ns.localName name)

def property (m : DataModel) (ns : PrefixTable) (a : Attribute) : Property :=
  { path := ns.predicateOf a
    name := a.name
    description := a.docstring
    constraints := a.dtypes.map (constraint m ns)
    required := a.isRequired
    multiple := a.multiple }

def shape (m : DataModel) (ns : PrefixTable) (o : Object) : Shape :=
  { name := shapeName ns o.name
    target := ns.localName o.name
    description := o.docstring
    properties := o.attributes.map (property m ns) }

/-- The prefixes of the document of a model. -/
def namespaces (m : DataModel) : PrefixTable :=
  .ofModel m [("sh", shaclNamespace), ("xsd", xsdNamespace)]

def shapes (m : DataModel) : List Shape := m.objects.map (shape m (namespaces m))

/-- A description on one line, as a literal. -/
def descriptionText (docstring : String) : String :=
  "sh:description " ++ literal (oneLine docstring)

def constraintText : List Constraint → List String
  | [] => []
  | [single] => [single.phrase]
  | many =>
    ["sh:or ( " ++ String.intercalate " " (many.map fun c => "[ " ++ c.phrase ++ " ]") ++ " )"]

/-- What is said of a property. -/
def Property.statements (p : Property) : List String :=
  ["sh:path " ++ p.path, "sh:name " ++ literal p.name]
    ++ (if p.description.isEmpty then [] else [descriptionText p.description])
    ++ constraintText p.constraints
    ++ (if p.required then ["sh:minCount 1"] else [])
    ++ (if p.multiple then [] else ["sh:maxCount 1"])

/-- A property as it is written. -/
def Property.render (p : Property) : String :=
  "sh:property [\n" ++ unlines (p.statements.map fun s => "        " ++ s ++ " ;") ++ "    ]"

/-- A shape as it is written. -/
def Shape.render (s : Shape) : String :=
  let statements :=
    ["a sh:NodeShape", "sh:targetClass " ++ s.target]
      ++ (if s.description.isEmpty then [] else [descriptionText s.description])
      ++ s.properties.map (·.render)
  "\n" ++ s.name ++ "\n" ++ String.intercalate " ;\n" (statements.map ("    " ++ ·)) ++ " .\n"

def render (m : DataModel) : String :=
  unlines ((namespaces m).bindings.map fun b => "@prefix " ++ b.1 ++ ": <" ++ b.2 ++ "> .")
    ++ String.join ((shapes m).map (·.render))

end Target.Shacl
end DocModel

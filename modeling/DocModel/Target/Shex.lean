import DocModel.Target.Rdf

/-!
# DocModel.Target.Shex

A model as ShEx shapes. Every object becomes a shape, every attribute a triple with what its value
has to be and how often it occurs.
-/

namespace DocModel
namespace Target.Shex

open Rdf Text

/-- What a value has to be. -/
inductive ValueExpression where
  /-- A literal of a type. -/
  | datatype (name : String)
  /-- A resource of a shape. -/
  | reference (shape : String)
  | oneOf (literals : List String)

/-- An expression as it is written. -/
def ValueExpression.phrase : ValueExpression → String
  | datatype name => name
  | reference shape => "@" ++ shape
  | oneOf literals => "[ " ++ String.intercalate " " literals ++ " ]"

/-- A triple of a shape. -/
structure Triple where
  predicate : String
  /-- What its value has to be, one of these. -/
  values : List ValueExpression
  /-- Whether there is at least one. -/
  required : Bool
  /-- Whether there may be several. -/
  multiple : Bool

/-- A shape. -/
structure Shape where
  name : String
  description : String
  triples : List Triple

/-- What a value of one type has to be. -/
def valueExpression (m : DataModel) (ns : PrefixTable) (dtype : String) : ValueExpression :=
  match m.classify dtype with
  | .primitive p => .datatype (xsdDatatype p)
  | .object name => .reference (ns.localName name)
  | .unknown name => .reference (ns.localName name)
  | .enumeration name => .oneOf (memberLiterals m name)

def triple (m : DataModel) (ns : PrefixTable) (a : Attribute) : Triple :=
  { predicate := ns.predicateOf a
    values := a.dtypes.map (valueExpression m ns)
    required := a.isRequired
    multiple := a.multiple }

def shape (m : DataModel) (ns : PrefixTable) (o : Object) : Shape :=
  { name := ns.localName o.name
    description := o.docstring
    triples := o.attributes.map (triple m ns) }

/-- The prefixes of the document of a model. -/
def namespaces (m : DataModel) : PrefixTable := .ofModel m [("xsd", xsdNamespace)]

def shapes (m : DataModel) : List Shape := m.objects.map (shape m (namespaces m))

def Triple.cardinality (t : Triple) : String :=
  match t.required, t.multiple with
  | true, false => ""
  | false, false => " ?"
  | true, true => " +"
  | false, true => " *"

/-- What the value of a triple has to be. -/
def valuesText : List ValueExpression → String
  | [] => "."
  | [single] => single.phrase
  | many => "( " ++ String.intercalate " OR " (many.map (·.phrase)) ++ " )"

/-- A triple as it is written. -/
def Triple.render (t : Triple) : String :=
  "    " ++ t.predicate ++ " " ++ valuesText t.values ++ t.cardinality

/-- A shape as it is written. -/
def Shape.render (s : Shape) : String :=
  let body :=
    if s.triples.isEmpty then " \x7b\x7d\n"
    else " \x7b\n" ++ String.intercalate " ;\n" (s.triples.map (·.render)) ++ "\n\x7d\n"
  "\n" ++ commentLines s.description "# " "" ++ s.name ++ body

def render (m : DataModel) : String :=
  unlines ((namespaces m).bindings.map fun b => "PREFIX " ++ b.1 ++ ": <" ++ b.2 ++ ">")
    ++ String.join ((shapes m).map (·.render))

end Target.Shex
end DocModel

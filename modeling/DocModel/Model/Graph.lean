import DocModel.Json.Basic
import DocModel.Model.Basic

/-!
# DocModel.Model.Graph

The relations between the objects of a model: an edge for every type of an attribute that is an
object. Enumerations and primitive types are no nodes.
-/

namespace DocModel

/-- An attribute of one object whose type is another. -/
structure Edge where
  /-- A name for the edge. -/
  id : String
  /-- The object with the attribute. -/
  source : String
  /-- The object that is its type. -/
  target : String
  property : String
  deriving DecidableEq

namespace Edge

/-- The edge between two objects by an attribute. -/
def between (source property target : String) : Edge :=
  { id := source ++ "-" ++ property ++ "-" ++ target, source, target, property }

/-- The edge as a JSON value. -/
def toJson (e : Edge) : Json :=
  .object [("id", .string e.id), ("source", .string e.source), ("target", .string e.target),
    ("attribute", .string e.property)]

end Edge

def Attribute.edges (m : DataModel) (o : Object) (a : Attribute) : List Edge :=
  a.dtypes.filterMap fun dtype =>
    (m.object? dtype).map fun target => Edge.between o.name a.name target.name

/-- The edges of a model, in the order of its attributes. -/
def DataModel.edges (m : DataModel) : List Edge :=
  m.objects.flatMap fun o => o.attributes.flatMap (Attribute.edges m o)

end DocModel

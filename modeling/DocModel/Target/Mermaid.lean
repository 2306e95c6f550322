import DocModel.Model.Basic
import DocModel.Text.Basic

/-!
# DocModel.Target.Mermaid

A model as a class diagram: a class for every object and enumeration, and an arrow for every type
of an attribute that the model defines.
-/

namespace DocModel
namespace Target.Mermaid

open Text

/-- An arrow of the diagram. -/
structure Relation where
  source : String
  /-- Whether it leads to many. -/
  multiple : Bool
  target : String
  label : String
  deriving DecidableEq

/-- The arrow of one type of an attribute. -/
def relation? (m : DataModel) (o : Object) (a : Attribute) (dtype : String) : Option Relation :=
  let toward (target : String) : Relation :=
    { source := o.name, multiple := a.multiple, target, label := a.name }
  match m.classify dtype with
  | .object name => some (toward name)
  | .enumeration name => some (toward name)
  | _ => none

def relations (m : DataModel) : List Relation :=
  m.objects.flatMap fun o => o.attributes.flatMap fun a => a.dtypes.filterMap (relation? m o a)

def Relation.line (r : Relation) : String :=
  "    " ++ r.source ++ " --> " ++ (if r.multiple then "\"*\"" else "\"1\"") ++ " " ++ r.target
    ++ " : " ++ r.label

def memberType (a : Attribute) : String :=
  String.intercalate " | " a.dtypes ++ if a.multiple then "[]" else ""

def classLines (name : String) (inner : List String) : List String :=
  ("    class " ++ name ++ " \x7b") :: inner.map ("        " ++ ·) ++ ["    \x7d"]

def objectLines (o : Object) : List String :=
  classLines o.name (o.attributes.map fun a => "+" ++ memberType a ++ " " ++ a.name)

def enumerationLines (e : Enumeration) : List String :=
  classLines e.name ("<<enumeration>>" :: e.mappings.names)

def render (m : DataModel) : String :=
  let arrows := relations m
  unlines
    ("classDiagram" :: m.objects.flatMap objectLines ++ m.enums.flatMap enumerationLines
      ++ (if arrows.isEmpty then [] else "" :: arrows.map (·.line)))

end Target.Mermaid
end DocModel

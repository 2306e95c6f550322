import DocModel.Proofs.Model.Edges
import DocModel.Proofs.Splitting
import DocModel.Target.Mermaid

/-!
# DocModel.Proofs.Mermaid.Arrows

The arrows of a class diagram and the edges of the graph of a model. The first go by the kind of a
type, the others look its name up among the objects.

* `Diagram.print` spells out how the classes and the arrows of a diagram are written, and
  `print_diagram` says that the diagram of a model is written so;
* `readArrow_printArrow`: between names without blanks an arrow is read back from its line;
* `relation?_eq`: a type gives an arrow if it is an object or an enumeration;
* `arrows_eq` and `edges_eq_objects`: what an attribute gives, type by type;
* `arrows_match_edges`: the arrows to objects are the edges, in the same order, and all others lead
  to enumerations.
-/

namespace DocModel

/-- Whether a type is an object. -/
def Kind.isObject : Kind → Bool
  | object _ => true
  | _ => false

/-- Whether a type is an object or an enumeration. -/
def Kind.isDefinition : Kind → Bool
  | object _ | enumeration _ => true
  | _ => false

section

variable {m : DataModel} {dtype : String}

theorem isObject_classify : (m.classify dtype).isObject = (m.object? dtype).isSome := by
  cases kind : m.classify dtype with
  | object name =>
    obtain ⟨-, o, found⟩ := DataModel.classify_eq_object kind
    rw [found]
    rfl
  | enumeration name =>
    obtain ⟨-, missing, -⟩ := DataModel.classify_eq_enumeration kind
    rw [missing]
    rfl
  | unknown name =>
    obtain ⟨-, missing, -⟩ := DataModel.classify_eq_unknown kind
    rw [missing]
    rfl
  | primitive p =>
    cases found : m.object? dtype with
    | none => rfl
    | some o =>
      rw [DataModel.classify_of_object? found] at kind
      cases kind

theorem objectTypes_eq (m : DataModel) (a : Attribute) :
    a.objectTypes m = a.dtypes.filter fun dtype => (m.classify dtype).isObject := by
  simp only [Attribute.objectTypes, isObject_classify]

end

namespace Target.Mermaid

open Text

/-- The ends and the label of an arrow. -/
def Relation.ends (r : Relation) : String × String × String := (r.source, r.label, r.target)

/-- The ends and the attribute of an edge. -/
def edgeEnds (e : Edge) : String × String × String := (e.source, e.property, e.target)

/-- Whether an arrow leads to an object. -/
def Relation.leadsToObject (m : DataModel) (r : Relation) : Bool := (m.object? r.target).isSome

/-- The arrow for a type of an attribute. -/
def arrow (o : Object) (a : Attribute) (target : String) : Relation :=
  { source := o.name, multiple := a.multiple, target, label := a.name }

/-! ## Diagrams -/

/-- A class of a diagram with the lines inside it. -/
structure Class where
  name : String
  inner : List String

structure Diagram where
  classes : List Class
  arrows : List Relation

def printClass (c : Class) : List String :=
  ("    class " ++ c.name ++ " \x7b") :: c.inner.map ("        " ++ ·) ++ ["    \x7d"]

/-- The line of an arrow: where it comes from, whether it leads to many, where it leads to, and its
label. -/
def printArrow (r : Relation) : String :=
  "    " ++ r.source ++ " --> " ++ (if r.multiple then "\"*\"" else "\"1\"") ++ " " ++ r.target
    ++ " : " ++ r.label

/-- A diagram as it is written: the lines of the arrows stand at its end, behind an empty one. -/
def Diagram.print (d : Diagram) : String :=
  unlines ("classDiagram" :: d.classes.flatMap printClass
    ++ if d.arrows.isEmpty then [] else "" :: d.arrows.map printArrow)

def objectClass (o : Object) : Class where
  name := o.name
  inner := o.attributes.map fun a =>
    "+" ++ String.intercalate " | " a.dtypes ++ (if a.multiple then "[]" else "") ++ " " ++ a.name

def enumerationClass (e : Enumeration) : Class where
  name := e.name
  inner := "<<enumeration>>" :: e.mappings.names

/-- The diagram of a model. -/
def diagram (m : DataModel) : Diagram where
  classes := m.objects.map objectClass ++ m.enums.map enumerationClass
  arrows := relations m

theorem printClass_objectClass (o : Object) : printClass (objectClass o) = objectLines o := rfl

theorem printClass_enumerationClass (e : Enumeration) :
    printClass (enumerationClass e) = enumerationLines e := rfl

theorem print_diagram (m : DataModel) : (diagram m).print = render m := by
  rw [Diagram.print, diagram, List.flatMap_append, List.flatMap_map, List.flatMap_map, render]
  simp only [printClass_objectClass, printClass_enumerationClass, List.append_assoc,
    List.cons_append]
  rfl

/-- The arrow that a line shows. -/
def readArrow (line : List Char) : Option Relation := do
  let text ← "    ".toList.isPrefixOf? line
  let (source, text) ← splitOnce ' ' text
  let text ← "--> ".toList.isPrefixOf? text
  let (times, text) ← splitOnce ' ' text
  let (target, text) ← splitOnce ' ' text
  let label ← ": ".toList.isPrefixOf? text
  return {
    source := String.ofList source, multiple := times == "\"*\"".toList
    target := String.ofList target, label := String.ofList label }

theorem readArrow_printArrow {r : Relation} (source : ' ' ∉ r.source.toList)
    (target : ' ' ∉ r.target.toList) : readArrow (printArrow r).toList = some r := by
  have behind (mark : String) (rest : List Char) :
      mark.toList.isPrefixOf? (mark.toList ++ rest) = some rest :=
    List.isPrefixOf?_eq_some_iff_append_eq.2 rfl
  obtain ⟨times, written, bare, many⟩ : ∃ times : List Char,
      (if r.multiple then "\"*\"" else "\"1\"").toList = times ∧ ' ' ∉ times ∧
        (times == "\"*\"".toList) = r.multiple := by
    cases r.multiple <;> exact ⟨_, rfl, by decide, by decide⟩
  have line : (printArrow r).toList = "    ".toList ++ (r.source.toList ++ ' ' ::
      ("--> ".toList ++ (times ++ ' ' :: (r.target.toList ++ ' ' ::
        (": ".toList ++ r.label.toList))))) := by
    simp only [printArrow, String.toList_append, written, List.append_assoc]
    rfl
  simp only [readArrow, line, behind, splitOnce_append source, splitOnce_append bare,
    splitOnce_append target, Option.bind_eq_bind, Option.bind_some, many, String.ofList_toList]
  rfl

/-! ## Arrows and edges -/

section

variable (m : DataModel) (o : Object) (a : Attribute)

theorem relation?_eq (dtype : String) : relation? m o a dtype =
    if (m.classify dtype).isDefinition then some (arrow o a dtype) else none := by
  rw [relation?]
  cases kind : m.classify dtype with
  | object name =>
    obtain ⟨rfl, -⟩ := DataModel.classify_eq_object kind
    rfl
  | enumeration name =>
    obtain ⟨rfl, -⟩ := DataModel.classify_eq_enumeration kind
    rfl
  | primitive p => rfl
  | unknown name => rfl

/-- An attribute gives an arrow for each of its types that the model defines. -/
theorem arrows_eq : a.dtypes.filterMap (relation? m o a) =
    (a.dtypes.filter fun dtype => (m.classify dtype).isDefinition).map (arrow o a) := by
  induction a.dtypes with
  | nil => rfl
  | cons dtype rest ih =>
    rw [List.filterMap_cons, relation?_eq, List.filter_cons, ih]
    cases (m.classify dtype).isDefinition <;> rfl

/-- An attribute gives an edge for each of its types that is an object. -/
theorem edges_eq_objects : a.edges m o =
    (a.dtypes.filter fun dtype => (m.classify dtype).isObject).map
      (Edge.between o.name a.name) := by
  rw [Attribute.edges_eq, objectTypes_eq]

/-- Of the arrows of an attribute those to objects are its edges. -/
theorem ends_arrows : ((a.dtypes.filterMap (relation? m o a)).filter
    (Relation.leadsToObject m)).map Relation.ends = (a.edges m o).map edgeEnds := by
  have object : ∀ dtype, ((Relation.leadsToObject m ∘ arrow o a) dtype &&
      (m.classify dtype).isDefinition) = (m.classify dtype).isObject := by
    intro dtype
    rw [Function.comp_apply, Relation.leadsToObject, arrow, ← isObject_classify]
    cases m.classify dtype <;> rfl
  have same : Relation.ends ∘ arrow o a = edgeEnds ∘ Edge.between o.name a.name := rfl
  rw [arrows_eq, edges_eq_objects, List.filter_map, List.filter_filter, List.map_map, List.map_map,
    same, List.filter_congr fun dtype _ => object dtype]

theorem ends_relations : ((relations m).filter (Relation.leadsToObject m)).map Relation.ends =
    m.edges.map edgeEnds := by
  simp only [relations, DataModel.edges, List.filter_flatMap, List.map_flatMap, ends_arrows]

end

theorem isDefinition_of_mem {m : DataModel} {r : Relation} (h : r ∈ relations m) :
    (m.classify r.target).isDefinition = true := by
  obtain ⟨o, -, inside⟩ := List.mem_flatMap.1 h
  obtain ⟨a, -, given⟩ := List.mem_flatMap.1 inside
  rw [arrows_eq] at given
  obtain ⟨dtype, kept, rfl⟩ := List.mem_map.1 given
  exact (List.mem_filter.1 kept).2

/-- What does not lead to an object leads to an enumeration. -/
theorem enumeration_of_not_object {m : DataModel} {r : Relation} (h : r ∈ relations m)
    (other : r.leadsToObject m = false) : ∃ e, m.enumeration? r.target = some e := by
  have defined := isDefinition_of_mem h
  rw [Relation.leadsToObject, ← isObject_classify] at other
  cases kind : m.classify r.target with
  | enumeration name =>
    obtain ⟨-, -, found⟩ := DataModel.classify_eq_enumeration kind
    exact found
  | object name =>
    rw [kind] at other
    cases other
  | primitive p =>
    rw [kind] at defined
    cases defined
  | unknown name =>
    rw [kind] at defined
    cases defined

/-- What a diagram shows of the types of attributes, and the graph of the same model. -/
structure SameRelations (m : DataModel) : Prop where
  /-- What is written is the diagram, with a line for each of its arrows. -/
  printed : (diagram m).print = render m
  /-- Between names without blanks an arrow is read back from its line. -/
  shown : ∀ r ∈ (diagram m).arrows, ' ' ∉ r.source.toList → ' ' ∉ r.target.toList →
    readArrow (printArrow r).toList = some r
  /-- The arrows that lead to objects are the edges, one for one and in their order. -/
  same : ((diagram m).arrows.filter (Relation.leadsToObject m)).map Relation.ends =
    m.edges.map edgeEnds
  /-- All others lead to enumerations. -/
  others : ∀ r ∈ (diagram m).arrows, r.leadsToObject m = false →
    ∃ e, m.enumeration? r.target = some e
  /-- An attribute gives an arrow for each of its types that is an object or an enumeration, and
  for no primitive or unknown type. -/
  arrows : ∀ (o : Object) (a : Attribute), a.dtypes.filterMap (relation? m o a) =
    (a.dtypes.filter fun dtype => (m.classify dtype).isDefinition).map (arrow o a)
  /-- It gives an edge for each that is an object, and for no other. -/
  edges : ∀ (o : Object) (a : Attribute), a.edges m o =
    (a.dtypes.filter fun dtype => (m.classify dtype).isObject).map (Edge.between o.name a.name)

/-- The diagram of any model shows the edges of its graph, and besides them only arrows to
enumerations. -/
theorem arrows_match_edges (m : DataModel) : SameRelations m where
  printed := print_diagram m
  shown := fun _ _ => readArrow_printArrow
  same := ends_relations m
  others := fun _ => enumeration_of_not_object
  arrows := arrows_eq m
  edges := edges_eq_objects m

/-- A name of an object, an enumeration and a primitive type is that of the object. -/
example :
    let string : Object :=
      { name := "string", attributes := [{ name := "x", dtypes := ["string", "float", "E", "E"] }] }
    let m : DataModel := { objects := [string], enums := [{ name := "string" }, { name := "E" }] }
    (relations m).map Relation.ends =
        [("string", "x", "string"), ("string", "x", "E"), ("string", "x", "E")] ∧
      m.edges.map edgeEnds = [("string", "x", "string")] := by decide

end Target.Mermaid
end DocModel

import DocModel.Proofs.Model.Kinds
import DocModel.Proofs.Xml.Documents
import DocModel.Proofs.Xml.Elements
import DocModel.Target.Xsd

/-!
# DocModel.Proofs.Xsd.Schemas

The schema of a model is well-formed XML that says what the model says, whatever its texts are.

* `named_document`: the names in a schema are fixed, so its text is scanned back to its tree;
* `valuesOf_document` and `textsOf_document` go through the tree, part by part of the model;
* `States` is what a reader of the schema finds, in order; `schema_wellFormed` puts both together.
-/

namespace DocModel
namespace Target.Xsd

open Xml

variable {m : DataModel}

/-! ## Names -/

theorem tag_named {name : String} {attributes : List (String × String)} (keys : List String)
    (same : attributes.map (·.1) = keys)
    (named : isName name ∧ (∀ key ∈ keys, isName key) ∧ keys.Nodup) :
    Tag.Named ⟨name, attributes⟩ := by
  subst same
  exact ⟨named.1, fun a ha => named.2.1 a.1 (List.mem_map_of_mem ha), named.2.2⟩

theorem named_documentation (docstring : String) :
    ∀ child ∈ documentation docstring, child.Named := by
  intro child hc
  unfold documentation at hc
  split at hc
  · cases hc
  · obtain rfl := List.mem_singleton.1 hc
    refine .parent (tag_named [] rfl (by decide)) fun child hc => ?_
    obtain rfl := List.mem_singleton.1 hc
    exact .text (tag_named [] rfl (by decide))

theorem named_elementOf (a : Attribute) : (elementOf m a).Named := by
  unfold elementOf
  dsimp only
  split
  · exact .empty (tag_named ["name", "type", "minOccurs", "maxOccurs"] rfl (by decide))
  · exact .parent (tag_named ["name", "type", "minOccurs", "maxOccurs"] rfl (by decide))
      (named_documentation a.docstring)

theorem named_complexType (o : Object) : (complexType m o).Named := by
  refine .parent (tag_named ["name"] rfl (by decide)) fun child hc => ?_
  rcases List.mem_append.1 hc with hc | hc
  · rcases List.mem_append.1 hc with hc | hc
    · exact named_documentation o.docstring child hc
    · split at hc
      · cases hc
      · obtain rfl := List.mem_singleton.1 hc
        refine .parent (tag_named [] rfl (by decide)) fun child hc => ?_
        obtain ⟨a, -, rfl⟩ := List.mem_map.1 hc
        exact named_elementOf a
  · obtain ⟨a, -, rfl⟩ := List.mem_map.1 hc
    exact .empty (tag_named ["name", "type", "use"] rfl (by decide))

theorem named_simpleType (e : Enumeration) : (simpleType e).Named := by
  refine .parent (tag_named ["name"] rfl (by decide)) fun child hc => ?_
  rcases List.mem_append.1 hc with hc | hc
  · exact named_documentation e.docstring child hc
  · obtain rfl := List.mem_singleton.1 hc
    refine .parent (tag_named ["base"] rfl (by decide)) fun child hc => ?_
    obtain ⟨value, -, rfl⟩ := List.mem_map.1 hc
    exact .empty (tag_named ["value"] rfl (by decide))

theorem named_document (m : DataModel) : (document m).Named where
  root := show Tag.Named ⟨"xs:schema", _⟩ from
    tag_named ["xmlns:xs", "elementFormDefault"] rfl (by decide)
  children child hc := by
    rcases List.mem_append.1 hc with hc | hc
    · rcases List.mem_append.1 hc with hc | hc
      · obtain ⟨o, -, rfl⟩ := List.mem_map.1 hc
        exact .empty (tag_named ["name", "type"] rfl (by decide))
      · obtain ⟨o, -, rfl⟩ := List.mem_map.1 hc
        exact named_complexType o
    · obtain ⟨e, -, rfl⟩ := List.mem_map.1 hc
      exact named_simpleType e

/-! ## Texts -/

/-- The attributes of an object that become elements. -/
def elementAttributes (m : DataModel) (o : Object) : List Attribute :=
  o.attributes.filter (!isXmlAttribute m ·)

/-- The attributes of an object that become attributes. -/
def xmlAttributes (m : DataModel) (o : Object) : List Attribute :=
  o.attributes.filter (isXmlAttribute m)

/-- The text for the type of an attribute: the type of XML Schema for a primitive type, and a name
with an ending for any other. -/
def typeText (m : DataModel) (a : Attribute) : String :=
  match a.primaryType? with
  | none => "xs:string"
  | some dtype =>
    match m.classify dtype with
    | .primitive p => primitiveType p
    | _ => dtype ++ "Type"

theorem name_valueType (a : Attribute) : (valueType m a).name = typeText m a := by
  unfold valueType typeText
  cases a.primaryType? with
  | none => rfl
  | some dtype =>
    dsimp only
    cases kind : m.classify dtype with
    | primitive p => rfl
    | object name => rw [(DataModel.classify_eq_object kind).1]; rfl
    | enumeration name => rw [(DataModel.classify_eq_enumeration kind).1]; rfl
    | unknown name => rw [(DataModel.classify_eq_unknown kind).1]; rfl

/-- The elements of a schema have the names and texts of a model. -/
structure States (m : DataModel) (schema : List Element) : Prop where
  complexTypes : valuesOf "xs:complexType" "name" schema = m.objects.map (·.name ++ "Type")
  simpleTypes : valuesOf "xs:simpleType" "name" schema = m.enums.map (·.name ++ "Type")
  members : valuesOf "xs:enumeration" "value" schema = m.enums.flatMap (·.mappings.values)
  elements : valuesOf "xs:element" "name" schema = m.objects.map (·.name) ++
    m.objects.flatMap fun o => (elementAttributes m o).map fun a =>
      if a.xml.isAttribute then a.name else a.xml.name
  elementTypes : valuesOf "xs:element" "type" schema = m.objects.map (·.name ++ "Type") ++
    m.objects.flatMap fun o => (elementAttributes m o).map (typeText m)
  attributes : valuesOf "xs:attribute" "name" schema =
    m.objects.flatMap fun o => (xmlAttributes m o).map (·.xml.name)
  attributeTypes : valuesOf "xs:attribute" "type" schema =
    m.objects.flatMap fun o => (xmlAttributes m o).map (typeText m)
  documentation : textsOf "xs:documentation" schema =
    (m.objects.flatMap fun o =>
        o.docstring :: (elementAttributes m o).map (·.docstring)).filter (· ≠ "") ++
      (m.enums.map (·.docstring)).filter (· ≠ "")

section

variable {name key : String}

theorem all_documentation (docstring : String) : allOf (documentation docstring) =
    if docstring = "" then []
    else [.parent "xs:annotation" [] [.text "xs:documentation" docstring],
      .text "xs:documentation" docstring] := by
  unfold documentation
  by_cases silent : docstring = ""
  · simp [silent, allOf]
  · simp [silent, allOf, Element.all]

theorem all_elementOf (a : Attribute) :
    (elementOf m a).all = elementOf m a :: allOf (documentation a.docstring) := by
  by_cases silent : a.docstring.isEmpty
  · simp [elementOf, documentation, silent, Element.all, allOf]
  · simp [elementOf, silent, Element.all]

theorem all_complexType (o : Object) : (complexType m o).all = complexType m o ::
    (allOf (documentation o.docstring) ++
      (if (elementAttributes m o).isEmpty then []
        else [.parent "xs:sequence" [] ((elementAttributes m o).map (elementOf m))]) ++
      ((elementAttributes m o).flatMap fun a => (elementOf m a).all) ++
      (xmlAttributes m o).map (attributeOf m)) := by
  have attributes : allOf ((xmlAttributes m o).map (attributeOf m)) =
      (xmlAttributes m o).map (attributeOf m) := allOf_map_self (fun _ => rfl) _
  rw [complexType, Element.all]
  rw [allOf_append, allOf_append, ← elementAttributes, ← xmlAttributes, attributes]
  by_cases none : (elementAttributes m o).isEmpty
  · simp [List.isEmpty_iff.1 none, allOf]
  · simp [none, allOf, Element.all, allOf_map]

theorem all_simpleType (e : Enumeration) : (simpleType e).all = simpleType e ::
    (allOf (documentation e.docstring) ++
      .parent "xs:restriction" [("base", "xs:string")]
        (e.mappings.values.map fun value => .empty "xs:enumeration" [("value", value)]) ::
      e.mappings.values.map fun value => .empty "xs:enumeration" [("value", value)]) := by
  have members : allOf (e.mappings.values.map fun value =>
      .empty "xs:enumeration" [("value", value)]) =
      e.mappings.values.map fun value => .empty "xs:enumeration" [("value", value)] :=
    allOf_map_self (fun _ => rfl) _
  rw [simpleType, Element.all, allOf_append, allOf, allOf, List.append_nil, Element.all, members]

theorem all_document (m : DataModel) : allOf (document m).children =
    m.objects.map globalElement ++ (m.objects.flatMap fun o => (complexType m o).all) ++
      m.enums.flatMap fun e => (simpleType e).all := by
  have globals : allOf (m.objects.map globalElement) = m.objects.map globalElement :=
    allOf_map_self (fun _ => rfl) _
  rw [document, allOf_append, allOf_append, globals, allOf_map, allOf_map]

/-- The tag of an attribute as an element. -/
def elementTag (m : DataModel) (a : Attribute) : Tag :=
  ⟨"xs:element", [("name", if a.xml.isAttribute then a.name else a.xml.name),
    ("type", (valueType m a).name), ("minOccurs", if a.isRequired then "1" else "0"),
    ("maxOccurs", if a.multiple then "unbounded" else "1")]⟩

/-- The tag of an attribute as an attribute. -/
def attributeTag (m : DataModel) (a : Attribute) : Tag :=
  ⟨"xs:attribute", [("name", a.xml.name), ("type", (valueType m a).name),
    ("use", if a.isRequired then "required" else "optional")]⟩

theorem tag_elementOf (a : Attribute) : (elementOf m a).tag = elementTag m a := by
  unfold elementOf
  dsimp only
  split <;> rfl

theorem flatMap_nothing {α : Type} (items : List α) :
    (items.flatMap fun _ => ([] : List String)) = [] :=
  List.flatMap_eq_nil_iff.2 fun _ _ => rfl

theorem values_nil (tag : String) : Tag.values name key ⟨tag, []⟩ = [] := by
  simp [Tag.values]

theorem valuesOf_documentation (docstring : String) :
    valuesOf name key (allOf (documentation docstring)) = [] := by
  rw [all_documentation]
  split
  · rfl
  · rw [valuesOf_cons, valuesOf_cons, Element.tag, Element.tag, values_nil, values_nil]
    rfl

theorem valuesOf_elementOf (a : Attribute) :
    valuesOf name key (elementOf m a).all = (elementTag m a).values name key := by
  rw [all_elementOf, valuesOf_cons, valuesOf_documentation, List.append_nil, tag_elementOf]

theorem valuesOf_complexType (o : Object) : valuesOf name key (complexType m o).all =
    Tag.values name key ⟨"xs:complexType", [("name", typeName o.name)]⟩ ++
      (((elementAttributes m o).flatMap fun a => (elementTag m a).values name key) ++
        (xmlAttributes m o).flatMap fun a => (attributeTag m a).values name key) := by
  have sequence : valuesOf name key (if (elementAttributes m o).isEmpty then []
      else [.parent "xs:sequence" [] ((elementAttributes m o).map (elementOf m))]) = [] := by
    split
    · rfl
    · rw [valuesOf_cons, Element.tag, values_nil]
      rfl
  rw [all_complexType, valuesOf_cons, valuesOf_append, valuesOf_append, valuesOf_append,
    valuesOf_documentation, sequence, valuesOf_flatMap, valuesOf_map]
  simp only [valuesOf_elementOf, List.nil_append]
  rfl

theorem valuesOf_simpleType (e : Enumeration) : valuesOf name key (simpleType e).all =
    Tag.values name key ⟨"xs:simpleType", [("name", typeName e.name)]⟩ ++
      (Tag.values name key ⟨"xs:restriction", [("base", "xs:string")]⟩ ++
        e.mappings.values.flatMap fun value =>
          Tag.values name key ⟨"xs:enumeration", [("value", value)]⟩) := by
  rw [all_simpleType, valuesOf_cons, valuesOf_append, valuesOf_documentation, List.nil_append,
    valuesOf_cons, valuesOf_map]
  rfl

/-- The values of an attribute in a schema, from the tags for each part of the model. -/
theorem valuesOf_document (m : DataModel) : valuesOf name key (allOf (document m).children) =
    (m.objects.flatMap fun o =>
        Tag.values name key ⟨"xs:element", [("name", o.name), ("type", typeName o.name)]⟩) ++
      (m.objects.flatMap fun o =>
        Tag.values name key ⟨"xs:complexType", [("name", typeName o.name)]⟩ ++
          (((elementAttributes m o).flatMap fun a => (elementTag m a).values name key) ++
            (xmlAttributes m o).flatMap fun a => (attributeTag m a).values name key)) ++
      m.enums.flatMap fun e =>
        Tag.values name key ⟨"xs:simpleType", [("name", typeName e.name)]⟩ ++
          (Tag.values name key ⟨"xs:restriction", [("base", "xs:string")]⟩ ++
            e.mappings.values.flatMap fun value =>
              Tag.values name key ⟨"xs:enumeration", [("value", value)]⟩) := by
  rw [all_document, valuesOf_append, valuesOf_append, valuesOf_flatMap, valuesOf_flatMap,
    valuesOf_map]
  simp only [valuesOf_complexType, valuesOf_simpleType]
  rfl

theorem textsOf_documentation (docstring : String) :
    textsOf "xs:documentation" (allOf (documentation docstring)) =
      [docstring].filter (· ≠ "") := by
  rw [all_documentation]
  split <;> simp [textsOf, *]

theorem textsOf_elementOf (a : Attribute) : textsOf "xs:documentation" (elementOf m a).all =
    [a.docstring].filter (· ≠ "") := by
  have own : textsOf "xs:documentation" [elementOf m a] = [] := by
    unfold elementOf
    dsimp only
    split <;> rfl
  rw [all_elementOf, ← List.singleton_append, textsOf_append, own, textsOf_documentation]
  rfl

theorem textsOf_complexType (o : Object) : textsOf "xs:documentation" (complexType m o).all =
    (o.docstring :: (elementAttributes m o).map (·.docstring)).filter (· ≠ "") := by
  have own : textsOf "xs:documentation" [complexType m o] = [] := rfl
  have sequence : textsOf "xs:documentation" (if (elementAttributes m o).isEmpty then []
      else [.parent "xs:sequence" [] ((elementAttributes m o).map (elementOf m))]) = [] := by
    split <;> rfl
  have attributes : textsOf "xs:documentation" ((xmlAttributes m o).map (attributeOf m)) = [] := by
    rw [List.map_eq_flatMap, textsOf_flatMap]
    exact flatMap_nothing _
  have texts : (o.docstring :: (elementAttributes m o).map (·.docstring)).filter (· ≠ "") =
      [o.docstring].filter (· ≠ "") ++
        (elementAttributes m o).flatMap fun a => [a.docstring].filter (· ≠ "") := by
    rw [← List.singleton_append, List.filter_append, List.map_eq_flatMap, List.filter_flatMap]
  rw [all_complexType, ← List.singleton_append, textsOf_append, textsOf_append, textsOf_append,
    textsOf_append, own, textsOf_documentation, sequence, textsOf_flatMap, attributes, texts]
  simp only [textsOf_elementOf, List.nil_append, List.append_nil]

theorem textsOf_simpleType (e : Enumeration) : textsOf "xs:documentation" (simpleType e).all =
    [e.docstring].filter (· ≠ "") := by
  have own : textsOf "xs:documentation" [simpleType e] = [] := rfl
  have members : textsOf "xs:documentation" (.parent "xs:restriction" [("base", "xs:string")]
        (e.mappings.values.map fun value => .empty "xs:enumeration" [("value", value)]) ::
      e.mappings.values.map fun value => .empty "xs:enumeration" [("value", value)]) = [] := by
    rw [← List.singleton_append, textsOf_append, List.map_eq_flatMap, textsOf_flatMap]
    exact flatMap_nothing _
  rw [all_simpleType, ← List.singleton_append, textsOf_append, textsOf_append, own, members,
    textsOf_documentation, List.nil_append, List.append_nil]

theorem textsOf_document (m : DataModel) :
    textsOf "xs:documentation" (allOf (document m).children) =
      (m.objects.flatMap fun o => textsOf "xs:documentation" (complexType m o).all) ++
        m.enums.flatMap fun e => textsOf "xs:documentation" (simpleType e).all := by
  have globals : textsOf "xs:documentation" (m.objects.map globalElement) = [] := by
    rw [List.map_eq_flatMap, textsOf_flatMap]
    exact flatMap_nothing _
  rw [all_document, textsOf_append, textsOf_append, globals, List.nil_append, textsOf_flatMap,
    textsOf_flatMap]

theorem states_document (m : DataModel) : States m (allOf (document m).children) where
  complexTypes := by
    simp [valuesOf_document, elementTag, attributeTag, Tag.values, typeName, flatMap_nothing,
      List.map_eq_flatMap]
  simpleTypes := by
    simp [valuesOf_document, elementTag, attributeTag, Tag.values, typeName, flatMap_nothing,
      List.map_eq_flatMap]
  members := by
    simp [valuesOf_document, elementTag, attributeTag, Tag.values, flatMap_nothing]
  elements := by
    simp [valuesOf_document, elementTag, attributeTag, Tag.values, flatMap_nothing,
      List.map_eq_flatMap]
  elementTypes := by
    simp [valuesOf_document, elementTag, attributeTag, Tag.values, flatMap_nothing,
      List.map_eq_flatMap, name_valueType, typeName, List.lookup_cons]
  attributes := by
    simp [valuesOf_document, elementTag, attributeTag, Tag.values, flatMap_nothing,
      List.map_eq_flatMap]
  attributeTypes := by
    simp [valuesOf_document, elementTag, attributeTag, Tag.values, flatMap_nothing,
      List.map_eq_flatMap, name_valueType, List.lookup_cons]
  documentation := by
    rw [textsOf_document, List.filter_flatMap, List.map_eq_flatMap, List.filter_flatMap]
    simp only [textsOf_complexType, textsOf_simpleType]

end

/-- The text for any model is well-formed and says what the model says: with characters for the
entities, its names, values and documentation are those of the model. -/
theorem schema_wellFormed (m : DataModel) :
    ∃ (tokens : List Token) (schema : Document),
      StandsFor (render m) schema tokens ∧ schema.name = "xs:schema" ∧
      States m (allOf schema.children) :=
  ⟨_, document m, standsFor_render (named_document m), rfl, states_document m⟩

end Target.Xsd
end DocModel

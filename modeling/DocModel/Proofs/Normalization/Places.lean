import DocModel.Proofs.Dialect.AttributeLines
import DocModel.Proofs.Validation.WellFormed

/-!
# DocModel.Proofs.Normalization.Places

Places in a document are no part of the model that is written: `render_unplaced` and
`wellFormed_unplaced` say that neither the normal form nor the rules depend on them.
-/

namespace DocModel

open Target.Markdown Validation

def Object.unplaced (o : Object) : Object :=
  { o with attributes := o.attributes.map Attribute.unplaced, position := {} }

def Enumeration.unplaced (e : Enumeration) : Enumeration := { e with position := {} }

def DataModel.unplaced (m : DataModel) : DataModel :=
  { m with objects := m.objects.map Object.unplaced, enums := m.enums.map Enumeration.unplaced }

/-! ## The normal form -/

theorem object?_unplaced (m : DataModel) (name : String) :
    m.unplaced.object? name = (m.object? name).map Object.unplaced := by
  rw [DataModel.object?, DataModel.object?, DataModel.unplaced, List.find?_map]
  rfl

theorem enumeration?_unplaced (m : DataModel) (name : String) :
    m.unplaced.enumeration? name = (m.enumeration? name).map Enumeration.unplaced := by
  rw [DataModel.enumeration?, DataModel.enumeration?, DataModel.unplaced, List.find?_map]
  rfl

theorem classify_unplaced (m : DataModel) (dtype : String) :
    m.unplaced.classify dtype = m.classify dtype := by
  simp only [DataModel.classify, DataModel.resolve, object?_unplaced, enumeration?_unplaced]
  cases m.object? dtype with
  | some o => rfl
  | none =>
    cases m.enumeration? dtype with
    | some e => rfl
    | none => cases Primitive.read? dtype <;> rfl

theorem properties_unplaced (m : DataModel) (a : Attribute) :
    properties m.unplaced a.unplaced = properties m a := by
  have link : typeLink m.unplaced = typeLink m := by
    funext dtype
    rw [typeLink, typeLink, classify_unplaced]
  have text : typeText? m.unplaced a.unplaced = typeText? m a := by
    rw [typeText?, typeText?, link]
    rfl
  rw [properties, properties, text]
  rfl

theorem attributeLines_unplaced (m : DataModel) (a : Attribute) :
    attributeLines m.unplaced a.unplaced = attributeLines m a := by
  rw [attributeLines, attributeLines, properties_unplaced]
  rfl

theorem renderObject_unplaced (m : DataModel) (o : Object) :
    renderObject m.unplaced o.unplaced = renderObject m o := by
  have lines : o.unplaced.attributes.flatMap (attributeLines m.unplaced) =
      o.attributes.flatMap (attributeLines m) := by
    rw [Object.unplaced, List.flatMap_map]
    simp only [attributeLines_unplaced]
  have empty : o.unplaced.attributes.isEmpty = o.attributes.isEmpty := by
    rw [Object.unplaced, List.isEmpty_map]
  rw [renderObject, renderObject, lines, empty]
  rfl

theorem render_unplaced (m : DataModel) : render m.unplaced = render m := by
  have objects : m.unplaced.objects.map (renderObject m.unplaced) =
      m.objects.map (renderObject m) := by
    rw [DataModel.unplaced, List.map_map]
    exact List.map_congr_left fun o _ => renderObject_unplaced m o
  have enums : m.unplaced.enums.map renderEnumeration = m.enums.map renderEnumeration := by
    rw [DataModel.unplaced, List.map_map]
    rfl
  rw [render, render, objects, enums]
  rfl

theorem render_congr {m n : DataModel} (h : m.unplaced = n.unplaced) : render m = render n := by
  rw [← render_unplaced m, h, render_unplaced]

/-! ## The rules -/

theorem knownType_unplaced {m : DataModel} {dtype : String} :
    KnownType m.unplaced dtype ↔ KnownType m dtype := by
  simp only [KnownType, DataModel.unplaced, List.mem_map, exists_exists_and_eq_and]
  rfl

theorem wellFormedAttribute_unplaced {m : DataModel} {a : Attribute} :
    WellFormedAttribute m.unplaced a.unplaced ↔ WellFormedAttribute m a := by
  constructor
  · rintro ⟨named, typed, known, single, term, xml⟩
    exact ⟨named, typed, fun dtype hd => knownType_unplaced.1 (known dtype hd), single, term, xml⟩
  · rintro ⟨named, typed, known, single, term, xml⟩
    exact ⟨named, typed, fun dtype hd => knownType_unplaced.2 (known dtype hd), single, term, xml⟩

theorem wellFormed_unplaced {m : DataModel} {diagnostics : List Dialect.Diagnostic} :
    WellFormed { model := m.unplaced, diagnostics } ↔ WellFormed { model := m, diagnostics } := by
  have names : m.unplaced.objects.map (·.name) = m.objects.map (·.name) := by
    rw [DataModel.unplaced, List.map_map]
    rfl
  have enumNames : m.unplaced.enums.map (·.name) = m.enums.map (·.name) := by
    rw [DataModel.unplaced, List.map_map]
    rfl
  have attributeNames : ∀ o : Object,
      o.unplaced.attributes.map (·.name) = o.attributes.map (·.name) := by
    intro o
    rw [Object.unplaced, List.map_map]
    rfl
  have objects : ∀ p : Object → Prop,
      (∀ o ∈ m.unplaced.objects, p o) ↔ ∀ o ∈ m.objects, p o.unplaced := by
    intro p
    rw [DataModel.unplaced]
    exact List.forall_mem_map
  have enums : ∀ p : Enumeration → Prop,
      (∀ e ∈ m.unplaced.enums, p e) ↔ ∀ e ∈ m.enums, p e.unplaced := by
    intro p
    rw [DataModel.unplaced]
    exact List.forall_mem_map
  have attributes : ∀ o : Object, (∀ a ∈ o.unplaced.attributes,
      WellFormedAttribute m.unplaced a) ↔ ∀ a ∈ o.attributes, WellFormedAttribute m a := by
    intro o
    rw [Object.unplaced, List.forall_mem_map]
    simp only [wellFormedAttribute_unplaced]
  have defined : (m.unplaced.objects ≠ [] ∨ m.unplaced.enums ≠ []) ↔
      (m.objects ≠ [] ∨ m.enums ≠ []) := by
    rw [DataModel.unplaced, ne_eq, ne_eq, List.map_eq_nil_iff, List.map_eq_nil_iff]
  constructor
  · rintro ⟨read, some, distinct, distinctAttributes, named, enumsNamed, ok, inhabited⟩
    dsimp only at *
    rw [names, enumNames] at distinct
    rw [objects] at distinctAttributes named ok
    rw [enums] at enumsNamed inhabited
    simp only [attributeNames] at distinctAttributes
    exact ⟨read, defined.1 some, distinct, distinctAttributes, named, enumsNamed,
      fun o ho => (attributes o).1 (ok o ho), inhabited⟩
  · rintro ⟨read, some, distinct, distinctAttributes, named, enumsNamed, ok, inhabited⟩
    refine ⟨read, defined.2 some, ?_, ?_, ?_, ?_, ?_, ?_⟩ <;> dsimp only at *
    · rwa [names, enumNames]
    · rw [objects]
      simp only [attributeNames]
      exact distinctAttributes
    · rw [objects]
      exact named
    · rw [enums]
      exact enumsNamed
    · rw [objects]
      exact fun o ho => (attributes o).2 (ok o ho)
    · rw [enums]
      exact inhabited

theorem wellFormed_congr {m n : DataModel} (h : m.unplaced = n.unplaced)
    {diagnostics : List Dialect.Diagnostic} (wellFormed : WellFormed { model := n, diagnostics }) :
    WellFormed { model := m, diagnostics } := by
  rw [← wellFormed_unplaced, h]
  exact wellFormed_unplaced.2 wellFormed

end DocModel

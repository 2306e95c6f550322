import DocModel.Model.Graph
import DocModel.Proofs.Model.Kinds
import DocModel.Proofs.Validation.WellFormed
import Mathlib.Data.List.Nodup

/-!
# DocModel.Proofs.Model.Edges

What the edges of a model are, and how far their identifiers tell them apart.

* `mem_edges_iff`: there is an edge for each type of an attribute that is an object;
* `id_between_inj`: names without hyphens are read back from the identifier of an edge;
* `edge_ids_nodup_iff`: an identifier is repeated only with the whole edge, for an attribute that
  has an object twice among its types.
-/

namespace DocModel

open Text Validation

/-- The types of an attribute that are objects, as often as it has them. -/
def Attribute.objectTypes (m : DataModel) (a : Attribute) : List String :=
  a.dtypes.filter fun dtype => (m.object? dtype).isSome

section

variable {m : DataModel} {o : Object} {a : Attribute}

theorem Attribute.edges_eq (m : DataModel) (o : Object) (a : Attribute) :
    a.edges m o = (a.objectTypes m).map (Edge.between o.name a.name) := by
  rw [Attribute.edges, Attribute.objectTypes]
  induction a.dtypes with
  | nil => rfl
  | cons dtype rest ih =>
    cases found : m.object? dtype with
    | none => simp [found, ih]
    | some target => simp [found, ih, DataModel.name_of_object? found]

theorem mem_objectTypes {dtype : String} (h : dtype ∈ a.objectTypes m) :
    dtype ∈ a.dtypes ∧ dtype ∈ m.objects.map (·.name) := by
  obtain ⟨own, known⟩ := List.mem_filter.1 h
  obtain ⟨target, found⟩ := Option.isSome_iff_exists.1 known
  exact ⟨own, DataModel.mem_names_of_object? found⟩

theorem mem_edges_iff {e : Edge} : e ∈ m.edges ↔ ∃ o ∈ m.objects, ∃ a ∈ o.attributes,
    ∃ target ∈ a.objectTypes m, e = .between o.name a.name target := by
  simp only [DataModel.edges, Attribute.edges_eq, List.mem_flatMap, List.mem_map, eq_comm]

end

/-! ## Identifiers -/

theorem toList_id_between (source property target : String) :
    (Edge.between source property target).id.toList =
      source.toList ++ '-' :: (property.toList ++ '-' :: target.toList) := by
  simp [Edge.between, String.toList_append]

/-- Two names without hyphens and a third are read back from what is written of them. -/
theorem id_between_inj {source property target source' property' target' : String}
    (plain : '-' ∉ source.toList ∧ '-' ∉ property.toList)
    (plain' : '-' ∉ source'.toList ∧ '-' ∉ property'.toList)
    (same : (Edge.between source property target).id =
      (Edge.between source' property' target').id) :
    source = source' ∧ property = property' ∧ target = target' := by
  have text := congrArg String.toList same
  rw [toList_id_between, toList_id_between] at text
  have first := congrArg (splitOnce '-') text
  rw [splitOnce_append plain.1, splitOnce_append plain'.1, Option.some.injEq,
    Prod.mk.injEq] at first
  have second := congrArg (splitOnce '-') first.2
  rw [splitOnce_append plain.2, splitOnce_append plain'.2, Option.some.injEq,
    Prod.mk.injEq] at second
  exact ⟨String.toList_inj.1 first.1, String.toList_inj.1 second.1, String.toList_inj.1 second.2⟩

theorem hyphen_notMem_of_wordChar {name : List Char} (h : ∀ c ∈ name, WordChar c) : '-' ∉ name :=
  fun mem => absurd (isWordChar_iff.2 (h _ mem)) (by decide)

/-- In a well-formed model an identifier belongs to one edge only. -/
theorem eq_of_edge_id {reading : Dialect.Reading} (h : WellFormed reading) {e f : Edge}
    (he : e ∈ reading.model.edges) (hf : f ∈ reading.model.edges) (same : e.id = f.id) : e = f := by
  have plain : ∀ o ∈ reading.model.objects, ∀ a ∈ o.attributes,
      '-' ∉ o.name.toList ∧ '-' ∉ a.name.toList := fun o ho a ha =>
    ⟨hyphen_notMem_of_wordChar (definitionName_wordChar (h.objectsNamed o ho)),
      hyphen_notMem_of_wordChar (attributeName_wordChar (h.attributes o ho a ha).named)⟩
  obtain ⟨o, ho, a, ha, target, -, rfl⟩ := mem_edges_iff.1 he
  obtain ⟨o', ho', a', ha', target', -, rfl⟩ := mem_edges_iff.1 hf
  obtain ⟨source, property, target⟩ := id_between_inj (plain o ho a ha) (plain o' ho' a' ha') same
  rw [source, property, target]

/-! ## Repeated edges -/

/-- Lists whose items carry the label of what they come from share no item. -/
theorem nodup_flatMap_iff {α β γ : Type} {items : List α} {f : α → List β} (label : α → γ)
    (key : β → γ) (distinct : (items.map label).Nodup)
    (carried : ∀ a ∈ items, ∀ b ∈ f a, key b = label a) :
    (items.flatMap f).Nodup ↔ ∀ a ∈ items, (f a).Nodup := by
  rw [List.nodup_flatMap, and_iff_left]
  refine (List.pairwise_map.1 distinct).imp_of_mem fun {a b} ha hb apart => ?_
  exact fun item first second =>
    apart ((carried a ha item first).symm.trans (carried b hb item second))

theorem edges_nodup_iff {reading : Dialect.Reading} (h : WellFormed reading) :
    reading.model.edges.Nodup ↔ ∀ o ∈ reading.model.objects, ∀ a ∈ o.attributes,
      (a.objectTypes reading.model).Nodup := by
  have carried : ∀ o : Object, ∀ a : Attribute, ∀ e ∈ a.edges reading.model o,
      e.source = o.name ∧ e.property = a.name := by
    intro o a e he
    rw [Attribute.edges_eq] at he
    obtain ⟨target, -, rfl⟩ := List.mem_map.1 he
    exact ⟨rfl, rfl⟩
  have target_inj : ∀ source property : String,
      Function.Injective (Edge.between source property) := fun _ _ _ _ same =>
    congrArg Edge.target same
  have objectNames := (List.nodup_append.1 h.distinct).1
  rw [DataModel.edges, nodup_flatMap_iff Object.name Edge.source objectNames]
  · refine forall₂_congr fun o ho => ?_
    rw [nodup_flatMap_iff Attribute.name Edge.property (h.distinctAttributes o ho)]
    · refine forall₂_congr fun a _ => ?_
      rw [Attribute.edges_eq, List.nodup_map_iff (target_inj _ _)]
    · exact fun a _ e he => (carried o a e he).2
  · intro o _ e he
    obtain ⟨a, -, inside⟩ := List.mem_flatMap.1 he
    exact (carried o a e inside).1

/-- In a valid model edges with the same identifier are the same, so that identifiers are repeated
exactly where an attribute has an object twice among its types; and edges lead from objects of the
model to objects of the model. -/
theorem edge_ids_nodup_iff (reading : Dialect.Reading)
    (valid : (Validation.reportOf reading).isValid = true) :
    (∀ e ∈ reading.model.edges, ∀ f ∈ reading.model.edges, e.id = f.id → e = f) ∧
    ((reading.model.edges.map (·.id)).Nodup ↔ ∀ o ∈ reading.model.objects, ∀ a ∈ o.attributes,
      (a.objectTypes reading.model).Nodup) ∧
    ∀ e ∈ reading.model.edges, e.source ∈ reading.model.objects.map (·.name) ∧
      e.target ∈ reading.model.objects.map (·.name) := by
  have formed := Validation.wellFormed_of_isValid valid
  have single : ∀ e ∈ reading.model.edges, ∀ f ∈ reading.model.edges, e.id = f.id → e = f :=
    fun e he f hf => eq_of_edge_id formed he hf
  refine ⟨single, ?_, fun e he => ?_⟩
  · rw [← edges_nodup_iff formed]
    exact ⟨List.Nodup.of_map _, List.Nodup.map_on single⟩
  · obtain ⟨o, ho, a, -, target, known, rfl⟩ := mem_edges_iff.1 he
    exact ⟨List.mem_map_of_mem ho, (mem_objectTypes known).2⟩

/-- A node with a link to a node and a list of parts, each a node or a leaf. -/
def nodeModel : DataModel where
  objects := [
    { name := "Node", attributes := [
      { name := "next", dtypes := ["Node", "string"], xml := .ofElement "next" },
      { name := "parts", multiple := true, dtypes := ["Node", "Leaf", "Kind"],
        xml := .ofElement "parts" }] },
    { name := "Leaf", attributes := [
      { name := "next", dtypes := ["Node"], xml := .ofElement "next" }] }]
  enums := [{ name := "Kind", mappings := { entries := [("INNER", "inner")] } }]

theorem isValid_nodeModel : (Validation.reportOf { model := nodeModel }).isValid = true := by
  refine Validation.isValid_of_rules (.inl (by simp [nodeModel])) ?_ ?_ <;> decide

theorem nodeModel_edge_ids :
    (Validation.reportOf { model := nodeModel }).isValid = true ∧
    nodeModel.edges.map (·.id) =
      ["Node-next-Node", "Node-parts-Node", "Node-parts-Leaf", "Leaf-next-Node"] ∧
    (∀ e ∈ nodeModel.edges, ∀ f ∈ nodeModel.edges, e.id = f.id → e = f) ∧
    ((nodeModel.edges.map (·.id)).Nodup ↔ ∀ o ∈ nodeModel.objects, ∀ a ∈ o.attributes,
      (a.objectTypes nodeModel).Nodup) ∧
    ∀ e ∈ nodeModel.edges, e.source ∈ nodeModel.objects.map (·.name) ∧
      e.target ∈ nodeModel.objects.map (·.name) :=
  ⟨isValid_nodeModel, by decide, edge_ids_nodup_iff { model := nodeModel } isValid_nodeModel⟩

/-- A document that gives an object twice as the type of an attribute. -/
def pairedType : String := "### A\n- x\n  - Type: A | A\n"

/-- The document is valid, and two edges of its model have the same identifier. -/
theorem edge_ids_repeated : ∃ reading, Dialect.parse pairedType = .ok reading ∧
    (Validation.reportOf reading).isValid = true ∧
    ¬ (reading.model.edges.map (·.id)).Nodup := by
  have read : (Dialect.parse pairedType).map (fun reading =>
      ((Validation.reportOf reading).isValid, reading.model.edges.map (·.id))) =
        .ok (true, ["A-x-A", "A-x-A"]) := by decide +kernel
  cases parsed : Dialect.parse pairedType with
  | error fault =>
    rw [parsed] at read
    cases read
  | ok reading =>
    rw [parsed] at read
    obtain ⟨valid, ids⟩ := Prod.mk.inj (Except.ok.inj read)
    refine ⟨reading, rfl, valid, ?_⟩
    rw [ids]
    decide

end DocModel

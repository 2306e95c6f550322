import DocModel.Proofs.JsonSchema.Inlining
import DocModel.Proofs.Validation.WellFormed
import Mathlib.Data.List.Nodup

/-!
# DocModel.Proofs.JsonSchema.References

No reference of a document leads nowhere: `document_references_lead` says that each one, however
deep it stands, leads to the root object or to a definition of the document that describes its name.

* `HasReference` finds references at any depth; `EachReference` says something of all of them;
* the references of the schema of a type are those that `Schema.references` lists
  (`eachReference_typeSchema`), whatever it is inside of;
* what they list is defined, because definitions are complete.
-/

namespace DocModel
namespace Target.JsonSchema

/-! ## References at any depth -/

/-- A value stands under the name of a reference, somewhere in a value. -/
inductive HasReference (reference : Json) : Json → Prop where
  | here {fields : Fields} (found : ("$ref", reference) ∈ fields) :
    HasReference reference (.object fields)
  | field {fields : Fields} {name : String} {value : Json} (found : (name, value) ∈ fields)
    (inside : HasReference reference value) : HasReference reference (.object fields)
  | item {items : List Json} {value : Json} (found : value ∈ items)
    (inside : HasReference reference value) : HasReference reference (.array items)

/-- A property of every reference in a value. -/
def EachReference (p : Json → Prop) (value : Json) : Prop :=
  ∀ reference, HasReference reference value → p reference

section

variable {p q : Json → Prop} {fields more : Fields}

theorem EachReference.imp {value : Json} (h : EachReference p value)
    (hi : ∀ reference, p reference → q reference) : EachReference q value :=
  fun reference hr => hi reference (h reference hr)

theorem eachReference_object (h : ∀ field ∈ fields,
    (field.1 = "$ref" → p field.2) ∧ EachReference p field.2) :
    EachReference p (.object fields) := by
  intro reference hr
  cases hr with
  | here found => exact (h _ found).1 rfl
  | field found inside => exact (h _ found).2 reference inside

theorem EachReference.of_mem (h : EachReference p (.object fields)) {field : String × Json}
    (hf : field ∈ fields) : (field.1 = "$ref" → p field.2) ∧ EachReference p field.2 := by
  refine ⟨fun name => h _ (.here ?_), fun reference hr => h _ (.field hf hr)⟩
  rwa [← name]

theorem eachReference_nil : EachReference p (.object []) :=
  eachReference_object fun _ hf => (nomatch hf)

theorem EachReference.cons (h : EachReference p (.object fields)) {name : String} {value : Json}
    (hn : name ≠ "$ref") (hv : EachReference p value) :
    EachReference p (.object ((name, value) :: fields)) := by
  refine eachReference_object fun field hf => ?_
  rcases List.mem_cons.1 hf with rfl | hf
  · exact ⟨fun e => absurd e hn, hv⟩
  · exact h.of_mem hf

theorem EachReference.append (hf : EachReference p (.object fields))
    (hm : EachReference p (.object more)) : EachReference p (.object (fields ++ more)) := by
  refine eachReference_object fun field h => ?_
  rcases List.mem_append.1 h with h | h
  · exact hf.of_mem h
  · exact hm.of_mem h

theorem EachReference.putAll (hf : EachReference p (.object fields))
    (hm : EachReference p (.object more)) : EachReference p (.object (fields.putAll more)) := by
  refine eachReference_object fun field h => ?_
  rcases mem_putAll h with h | h
  · exact hf.of_mem h
  · exact hm.of_mem h

theorem eachReference_array {items : List Json} (h : ∀ item ∈ items, EachReference p item) :
    EachReference p (.array items) := by
  intro reference hr
  cases hr with
  | item found inside => exact h _ found reference inside

theorem Leaf.eachReference {value : Json} (h : Leaf value) : EachReference p value := by
  cases h with
  | texts texts =>
    refine eachReference_array fun item hi => ?_
    obtain ⟨text, -, rfl⟩ := List.mem_map.1 hi
    exact fun _ hr => (nomatch hr)
  | _ => exact fun _ hr => (nomatch hr)

theorem LeafFields.eachReference (h : LeafFields fields) : EachReference p (.object fields) := by
  refine eachReference_object fun field hf => ⟨fun name => ?_, (h.leaf field hf).eachReference⟩
  exact absurd (name ▸ List.mem_cons_self) (h.unreserved field hf)

/-! ## References of schemas -/

theorem eachReference_alternatives {alternatives : List Json}
    (h : ∀ value ∈ alternatives, EachReference p value) :
    EachReference p (.object (alternativeFields alternatives)) := by
  unfold alternativeFields
  split
  · exact eachReference_nil
  · exact h _ List.mem_cons_self
  · exact eachReference_nil.cons (by decide) (eachReference_array h)
  · exact eachReference_nil.cons (by decide) (eachReference_array h)

theorem eachReference_property {m : DataModel} {a : Attribute} {alternatives : List Json}
    (h : ∀ value ∈ alternatives, EachReference p value) :
    EachReference p (.object (propertyFields m a alternatives)) := by
  have item := eachReference_alternatives h
  have list : Leaf (.string "array") := .string "array"
  unfold propertyFields
  refine EachReference.putAll ?_ (leaf_annotations m a).eachReference
  split
  · exact (eachReference_nil.cons (by decide) list.eachReference).cons (by decide) item
  · exact item

theorem mem_schemaList {m : DataModel} {strict : Bool} {schemas : List Schema} {value : Json}
    (h : value ∈ schemaList m strict schemas) :
    ∃ schema ∈ schemas, value = .object (schema.fields m strict) := by
  induction schemas with
  | nil => cases h
  | cons schema rest ih =>
    rcases List.mem_cons.1 h with rfl | h
    · exact ⟨schema, List.mem_cons_self, rfl⟩
    · obtain ⟨other, ho, rfl⟩ := ih h
      exact ⟨other, List.mem_cons_of_mem _ ho, rfl⟩

/-- The references of an object are those of the types of its attributes. -/
theorem eachReference_objectFields {m : DataModel} {strict : Bool} {o : Object}
    {properties : List (Attribute × List Schema)}
    (named : ∀ property ∈ properties, property.1.name ≠ "$ref")
    (h : ∀ property ∈ properties, ∀ schema ∈ property.2,
      EachReference p (.object (schema.fields m strict))) :
    EachReference p (.object (Schema.fields m strict (.object o properties))) := by
  have inner : EachReference p (.object (propertiesFields m strict [] properties)) := by
    rw [propertiesFields_eq]
    refine eachReference_nil.putAll (eachReference_object fun field hf => ?_)
    obtain ⟨property, hp, rfl⟩ := List.mem_map.1 hf
    refine ⟨fun name => absurd name (named property hp), eachReference_property fun value hv => ?_⟩
    obtain ⟨schema, hs, rfl⟩ := mem_schemaList hv
    exact h property hp schema hs
  rw [Schema.fields, objectFields_eq]
  refine eachReference_nil.putAll ((leaf_heading o).eachReference.append ?_)
  exact (leaf_ending strict o).eachReference.cons (by decide) inner

end

/-- A reference to the root object of a scope, or to one of some definitions. -/
inductive Refers (b : SchemaScope) (names : List String) : Json → Prop where
  | root {name : String} (isRoot : b.root = some name) : Refers b names (.string "#")
  | definition {name : String} (listed : name ∈ names) :
    Refers b names (.string ("#/$defs/" ++ name))

theorem Refers.mono {b : SchemaScope} {names more : List String} {reference : Json}
    (h : Refers b names reference) (hm : ∀ name ∈ names, name ∈ more) :
    Refers b more reference := by
  cases h with
  | root isRoot => exact .root isRoot
  | definition listed => exact .definition (hm _ listed)

/-- A name that the model defines. -/
inductive Defines (m : DataModel) (name : String) : Prop where
  | object (o : Object) (found : m.object? name = some o)
  | enumeration (e : Enumeration) (noObject : m.object? name = none)
    (found : m.enumeration? name = some e)

/-- A model whose types are known and in which nothing is called like a reference. -/
structure Referable (m : DataModel) : Prop where
  attributes : ∀ o ∈ m.objects, ∀ a ∈ o.attributes, a.name ≠ "$ref"
  definitions : ∀ name, Defines m name → name ≠ "$ref"
  known : ∀ dtype ∈ typeUses m, (m.resolve dtype).isSome = true

/-- A well-formed model is referable: a dollar sign is no part of a name. -/
theorem referable_of_wellFormed {reading : Dialect.Reading} (h : Validation.WellFormed reading) :
    Referable reading.model := by
  have noDefinition : ¬ Validation.DefinitionName "$ref".toList := by
    rw [← Validation.isDefinitionName_iff]
    decide
  have noAttribute : ¬ Validation.AttributeName "$ref".toList := by
    rw [← Validation.isAttributeName_iff]
    decide
  refine ⟨fun o ho a ha same => ?_, fun name hd same => ?_, fun dtype hd => ?_⟩
  · exact noAttribute (same ▸ (h.attributes o ho a ha).named)
  · cases hd with
    | object o found =>
      have named := h.objectsNamed o (DataModel.mem_of_object? found)
      rw [DataModel.name_of_object? found, same] at named
      exact noDefinition named
    | enumeration e noObject found =>
      have named := h.enumsNamed e (List.mem_of_find?_eq_some found)
      rw [DataModel.name_of_enumeration? found, same] at named
      exact noDefinition named
  · obtain ⟨a, ha, hd⟩ := List.mem_flatMap.1 hd
    obtain ⟨o, ho, ha⟩ := List.mem_flatMap.1 ha
    exact Validation.resolve_isSome_iff.2 ((h.attributes o ho a ha).known dtype hd)

section

variable {b : SchemaScope} {strict : Bool}

theorem PlainSchema.eachReference {p : Json → Prop} {m : DataModel} {dtype : String}
    {schema : Schema} (h : PlainSchema m dtype schema) :
    EachReference p (.object (schema.fields m strict)) := by
  cases h with
  | primitive q => exact (leaf_primitiveFields q).eachReference
  | members e => exact (leaf_memberFields e).eachReference
  | anything => exact eachReference_nil

theorem eachReference_single {p : Json → Prop} {text : String} (h : p (.string text)) :
    EachReference p (.object [("$ref", .string text)]) := by
  refine eachReference_object fun field hf => ?_
  rw [List.mem_singleton.1 hf]
  exact ⟨fun _ => h, fun _ hr => (nomatch hr)⟩

/-- An object that is put somewhere has the references of the types of its attributes. -/
theorem eachReference_attributeSchemas (free : Referable b.model) {o : Object}
    (ho : o ∈ b.model.objects) {fuel : Nat} {path : List String}
    (h : ∀ dtype, EachReference (Refers b (b.typeSchema fuel path dtype).references)
      (.object ((b.typeSchema fuel path dtype).fields b.model strict))) :
    EachReference (Refers b (Schema.object o (attributeSchemas b fuel path o)).references)
      (.object (Schema.fields b.model strict (.object o (attributeSchemas b fuel path o)))) := by
  refine eachReference_objectFields (fun property hp => ?_) fun property hp schema hs => ?_
  · obtain ⟨a, ha, rfl⟩ := List.mem_map.1 hp
    exact free.attributes o ho a ha
  · obtain ⟨a, ha, rfl⟩ := List.mem_map.1 hp
    obtain ⟨dtype, hd, rfl⟩ := List.mem_map.1 hs
    exact (h dtype).imp fun reference hr =>
      hr.mono fun name hn => mem_references_object.2 ⟨a, ha, dtype, hd, hn⟩

/-- The references of the schema of a type are to the root object or listed. -/
theorem eachReference_typeSchema (free : Referable b.model) (fuel : Nat) (path : List String)
    (dtype : String) :
    EachReference (Refers b (b.typeSchema fuel path dtype).references)
      (.object ((b.typeSchema fuel path dtype).fields b.model strict)) := by
  induction fuel using Nat.strongRecOn generalizing path dtype with
  | ind fuel ih =>
    have view := typeView (b := b) fuel path dtype
    generalize b.typeSchema fuel path dtype = schema at view
    cases view with
    | plain means => exact means.eachReference
    | plainReference => exact eachReference_single (.definition List.mem_cons_self)
    | root o found isRoot => exact eachReference_single (.root isRoot)
    | objectReference => exact eachReference_single (.definition List.mem_cons_self)
    | object o found less inner lt =>
      exact eachReference_attributeSchemas free (DataModel.mem_of_object? found) (ih less lt inner)

theorem eachReference_objectSchema (free : Referable b.model) {o : Object}
    (ho : o ∈ b.model.objects) :
    EachReference (Refers b (b.objectSchema o).references)
      (.object ((b.objectSchema o).fields b.model strict)) :=
  eachReference_attributeSchemas free ho fun dtype => eachReference_typeSchema free _ _ dtype

theorem eachReference_definitionSchema (free : Referable b.model) (name : String) :
    EachReference (Refers b (b.definitionSchema name).references)
      (.object ((b.definitionSchema name).fields b.model strict)) := by
  unfold SchemaScope.definitionSchema
  split
  · next o found => exact eachReference_objectSchema free (DataModel.mem_of_object? found)
  · split
    · exact (leaf_memberFields _).eachReference
    · exact eachReference_nil

end

/-! ## What definitions describe -/

/-- Fields that describe an object: its name is the title, and each attribute is a property. -/
structure DescribesObject (o : Object) (fields : Fields) : Prop where
  title : fields.lookup "title" = some (.string o.name)
  type : fields.lookup "type" = some (.string "object")
  /-- The properties are its attributes. -/
  properties : ∃ properties : Fields, fields.lookup "properties" = some (.object properties) ∧
    ∀ name, (properties.lookup name).isSome = true ↔ ∃ a ∈ o.attributes, a.name = name

/-- Fields that describe an enumeration: its name is the title, and its values are listed. -/
structure DescribesEnumeration (e : Enumeration) (fields : Fields) : Prop where
  title : fields.lookup "title" = some (.string e.name)
  type : fields.lookup "type" = some (.string "string")
  /-- The values are those of its members. -/
  values : fields.lookup "enum" = some (.array (e.mappings.values.map .string))

/-- A field of a name that no other field has is found. -/
theorem lookup_putAll_nil {fields : Fields} (distinct : (fields.map (·.1)).Nodup)
    (field : String × Json) (hf : field ∈ fields) :
    (Fields.putAll [] fields).lookup field.1 = some field.2 := by
  have found : fields.reverse.lookup field.1 = some field.2 := by
    refine lookup_of_forall ⟨field, List.mem_reverse.2 hf, rfl⟩ fun other ho same => ?_
    rw [List.inj_on_of_nodup_map distinct (List.mem_reverse.1 ho) hf same]
  rw [lookup_putAll, found, Option.some_or]

theorem names_describe (docstring : String) :
    ((describe docstring).map (·.1)).Sublist ["description"] := by
  unfold describe
  split <;> simp

theorem names_ending (strict : Bool) (o : Object) :
    ((ending strict o).map (·.1)).Sublist ["required", "additionalProperties"] := by
  unfold ending
  rw [List.map_append]
  have required : ((if (requiredNames strict o).isEmpty then []
      else [("required", Json.array ((requiredNames strict o).map .string))]).map
        Prod.fst).Sublist ["required"] := by
    split <;> simp
  have closed : ((if strict then [("additionalProperties", Json.bool false)] else []).map
      Prod.fst).Sublist ["additionalProperties"] := by
    split <;> simp
  exact required.append closed

theorem names_objectFields (strict : Bool) (o : Object) (properties : Fields) :
    ((heading o ++ ("properties", .object properties) :: ending strict o).map (·.1)).Nodup := by
  have all : ((heading o ++ ("properties", Json.object properties) :: ending strict o).map
      (·.1)).Sublist (["title", "type"] ++ ["description"] ++ "properties" ::
        ["required", "additionalProperties"]) := by
    rw [heading, List.map_append, List.map_append, List.map_cons]
    exact ((List.Sublist.refl _).append (names_describe _)).append
      ((names_ending strict o).cons_cons _)
  exact all.nodup (by decide)

theorem lookup_propertiesFields (m : DataModel) (strict : Bool)
    (properties : List (Attribute × List Schema)) (name : String) :
    ((propertiesFields m strict [] properties).lookup name).isSome = true ↔
      ∃ property ∈ properties, property.1.name = name := by
  rw [propertiesFields_eq, lookup_putAll, List.lookup_nil, Option.or_none, List.lookup_isSome_iff]
  simp only [List.mem_reverse, List.mem_map, beq_iff_eq]
  constructor
  · rintro ⟨field, ⟨property, hp, rfl⟩, same⟩
    exact ⟨property, hp, same.symm⟩
  · rintro ⟨property, hp, rfl⟩
    exact ⟨_, ⟨property, hp, rfl⟩, rfl⟩

theorem describesObject (m : DataModel) (strict : Bool) (o : Object) (b : SchemaScope) (fuel : Nat)
    (path : List String) :
    DescribesObject o (Schema.fields m strict (.object o (attributeSchemas b fuel path o))) := by
  rw [Schema.fields, objectFields_eq]
  generalize hp : propertiesFields m strict [] (attributeSchemas b fuel path o) = properties
  have found := lookup_putAll_nil (names_objectFields strict o properties)
  refine ⟨found ("title", .string o.name) ?_, found ("type", .string "object") ?_, properties,
    found ("properties", .object properties) ?_, fun name => ?_⟩
  · simp [heading]
  · simp [heading]
  · simp
  · rw [← hp, lookup_propertiesFields]
    simp [attributeSchemas]

theorem describesEnumeration (e : Enumeration) : DescribesEnumeration e (memberFields e) := by
  have all : (([("title", Json.string e.name), ("type", .string "string")] ++
      describe e.docstring ++ [("enum", Json.array (e.mappings.values.map Json.string))]).map
        Prod.fst).Sublist (["title", "type"] ++ ["description"] ++ ["enum"]) := by
    rw [List.map_append, List.map_append]
    exact ((List.Sublist.refl _).append (names_describe _)).append (List.Sublist.refl _)
  have found := lookup_putAll_nil (all.nodup (by decide))
  refine ⟨found ("title", .string e.name) ?_, found ("type", .string "string") ?_,
    found ("enum", .array (e.mappings.values.map .string)) ?_⟩ <;> simp

/-! ## Where references lead -/

/-- What a reference leads to in the document of a model. -/
inductive Leads (m : DataModel) (request : Request) (document : Fields) : Json → Prop where
  /-- To the document, which describes the root object. -/
  | root (o : Object) (isRoot : rootObject m request = .ok (some o))
    (describes : DescribesObject o document) : Leads m request document (.string "#")
  /-- To a definition that describes the object of its name. -/
  | object (o : Object) (defined : o ∈ m.objects) (definition : Fields)
    (found : definitionFields? document o.name = some definition)
    (describes : DescribesObject o definition) :
    Leads m request document (.string ("#/$defs/" ++ o.name))
  /-- To a definition that describes the enumeration of its name. -/
  | enumeration (e : Enumeration) (defined : e ∈ m.enums) (definition : Fields)
    (found : definitionFields? document e.name = some definition)
    (describes : DescribesEnumeration e definition) :
    Leads m request document (.string ("#/$defs/" ++ e.name))

section

variable {m : DataModel} {request : Request} {root : Object}

/-- What stands before the root schema and after it hides nothing of it. -/
theorem lookup_body {key : String} {value : Json} (hk : key ∉ documentKeys)
    (h : (body m request root).lookup key = some value) :
    (documentFields m request root).lookup key = some value := by
  rw [← rootFields_documentFields, rootFields,
    lookup_filter_name (fun name => !documentKeys.contains name)] at h
  rwa [if_pos (by simpa using hk)] at h

theorem describesObject_document : DescribesObject root (documentFields m request root) := by
  have described : DescribesObject root (body m request root) := describesObject _ _ _ _ _ _
  obtain ⟨properties, found, names⟩ := described.properties
  exact ⟨lookup_body (by decide) described.title, lookup_body (by decide) described.type,
    properties, lookup_body (by decide) found, names⟩

theorem leads_definition (found : m.object? root.name = some root) {name : String}
    (known : Built (definitionsOf m request root) name) (defines : Defines m name) :
    Leads m request (documentFields m request root) (.string ("#/$defs/" ++ name)) := by
  have definition := definitionFields_documentFields found known
  cases defines with
  | object o ho =>
    obtain rfl := DataModel.name_of_object? ho
    rw [definitionSchema_object ho] at definition
    exact .object o (DataModel.mem_of_object? ho) _ definition (describesObject _ _ _ _ _ _)
  | enumeration e noObject he =>
    obtain rfl := DataModel.name_of_enumeration? he
    have members : (scopeOf m root request.inline).definitionSchema e.name = .members e := by
      unfold SchemaScope.definitionSchema scopeOf
      rw [noObject, he]
    rw [members] at definition
    exact .enumeration e (List.mem_of_find?_eq_some he) _ definition (describesEnumeration e)

end

/-! ## What is referred to is defined -/

section

variable {b : SchemaScope} {name : String}

/-- What the schema of a known type refers to is defined. -/
theorem defines_typeSchema (h : Referable b.model) {fuel : Nat} {path : List String}
    {dtype : String} (used : dtype ∈ typeUses b.model)
    (hn : name ∈ (b.typeSchema fuel path dtype).references) : Defines b.model name := by
  induction fuel using Nat.strongRecOn generalizing path dtype with
  | ind fuel ih =>
    have view := typeView (b := b) fuel path dtype
    generalize b.typeSchema fuel path dtype = schema at view hn
    cases view with
    | plain means =>
      rw [means.references] at hn
      cases hn
    | plainReference means =>
      obtain rfl := List.mem_singleton.1 hn
      generalize hs : b.definitionSchema name = schema at means
      cases means with
      | primitive p kind =>
        unfold SchemaScope.definitionSchema at hs
        split at hs
        · cases hs
        · split at hs <;> cases hs
      | members e kind found =>
        obtain ⟨-, noObject, -⟩ := DataModel.classify_eq_enumeration kind
        exact .enumeration e noObject found
      | anything kind =>
        exact absurd kind (DataModel.classify_ne_unknown (h.known name used) _)
    | root => cases hn
    | objectReference o found =>
      obtain rfl := List.mem_singleton.1 hn
      exact .object o found
    | object o found less inner lt =>
      obtain ⟨a, ha, used, hd, hn⟩ := mem_references_object.1 hn
      exact ih less lt (mem_typeUses (DataModel.mem_of_object? found) ha hd) hn

theorem defines_object (h : Referable b.model) {o : Object} (ho : o ∈ b.model.objects) {fuel : Nat}
    {path : List String}
    (hn : name ∈ (Schema.object o (attributeSchemas b fuel path o)).references) :
    Defines b.model name := by
  obtain ⟨a, ha, dtype, hd, hn⟩ := mem_references_object.1 hn
  exact defines_typeSchema h (mem_typeUses ho ha hd) hn

theorem defines_definitionSchema (h : Referable b.model) {needed : String}
    (hn : name ∈ (b.definitionSchema needed).references) : Defines b.model name := by
  unfold SchemaScope.definitionSchema at hn
  split at hn
  · next o found => exact defines_object h (DataModel.mem_of_object? found) hn
  · split at hn <;> cases hn

end

/-! ## Documents -/

section

variable {m : DataModel} {request : Request} {root : Object}

theorem eachReference_front {p : Json → Prop} : EachReference p (.object (front m)) := by
  unfold front
  refine EachReference.append (eachReference_nil.cons (by decide) (Leaf.string _).eachReference) ?_
  cases m.config.repo with
  | none => exact eachReference_nil
  | some repo => exact eachReference_nil.cons (by decide) (Leaf.string _).eachReference

theorem eachReference_definitions {p : Json → Prop} {strict : Bool}
    {entries : List (String × Schema)} (h : ∀ entry ∈ entries, entry.1 ≠ "$ref" ∧
      EachReference p (.object (entry.2.fields m strict))) :
    EachReference p (.object (Fields.putAll [] (entries.map fun entry =>
      (entry.1, .object (entry.2.fields m strict))))) := by
  refine eachReference_nil.putAll (eachReference_object fun field hf => ?_)
  obtain ⟨entry, he, rfl⟩ := List.mem_map.1 hf
  exact ⟨fun name => absurd name (h entry he).1, (h entry he).2⟩

theorem leads_document (h : Referable m) (hr : rootObject m request = .ok (some root)) :
    EachReference (Leads m request (documentFields m request root))
      (.object (documentFields m request root)) := by
  have found := object?_rootObject hr
  have mem := DataModel.mem_of_object? found
  have free : Referable (scopeOf m root request.inline).model := h
  have leads {name : String} (known : Built (definitionsOf m request root) name)
      (defines : Defines m name) := leads_definition found known defines
  obtain ⟨rootBuilt, means, built⟩ := definitions_complete (b := scopeOf m root request.inline)
    (references_root found)
  refine eachReference_nil.putAll ((eachReference_front.append ?_).append ?_)
  · refine (eachReference_objectSchema free mem).imp fun reference refers => ?_
    cases refers with
    | root isRoot => exact .root root hr describesObject_document
    | definition listed => exact leads (rootBuilt _ listed) (defines_object free mem listed)
  · unfold back
    split
    · exact eachReference_nil
    · refine eachReference_nil.cons (by decide) (eachReference_definitions fun entry he => ?_)
      have defined := forall_definitions (fun _ hn => defines_object free mem hn)
        (fun _ _ _ hn => defines_definitionSchema free hn) entry he
      refine ⟨h.definitions _ defined.1, ?_⟩
      rw [defined.2]
      refine (eachReference_definitionSchema free entry.1).imp fun reference refers => ?_
      cases refers with
      | root isRoot => exact .root root hr describesObject_document
      | definition listed =>
        rw [← defined.2] at listed
        exact leads (built entry he _ listed)
          (defines_definitionSchema free (defined.2 ▸ listed))

/-- A document without a root object defines enumerations alone, and refers to nothing. -/
theorem eachReference_rootless {p : Json → Prop} (h : Referable m) (noObjects : m.objects = []) :
    EachReference p (documentOf m request none) := by
  have noObject (name : String) : m.object? name = none := by simp [DataModel.object?, noObjects]
  have schema (b : SchemaScope) (hb : b.model = m) (name : String) :
      (b.definitionSchema name).references = [] ∧
        EachReference p (.object ((b.definitionSchema name).fields m request.strict)) := by
    rw [SchemaScope.definitionSchema, hb, noObject]
    dsimp only
    split
    · exact ⟨rfl, (leaf_memberFields _).eachReference⟩
    · exact ⟨rfl, eachReference_nil⟩
  have needed : ∀ name ∈ m.enums.map (·.name), Defines m name := by
    intro name hn
    obtain ⟨e, he, rfl⟩ := List.mem_map.1 hn
    have some : (m.enumeration? e.name).isSome = true :=
      List.find?_isSome.2 ⟨e, he, beq_self_eq_true _⟩
    obtain ⟨first, found⟩ := Option.isSome_iff_exists.1 some
    exact .enumeration first (noObject _) found
  have definitions : ∀ entry ∈ SchemaScope.definitions
      { model := m, root := none, inline := request.inline } (m.enums.map (·.name)),
      entry.1 ≠ "$ref" ∧ EachReference p (.object (entry.2.fields m request.strict)) := by
    intro entry he
    have defined := forall_definitions needed
      (fun other _ name hn => by rw [(schema _ rfl other).1] at hn; cases hn) entry he
    exact ⟨h.definitions _ defined.1, defined.2 ▸ (schema _ rfl entry.1).2⟩
  refine eachReference_nil.putAll ((eachReference_front.append eachReference_nil).append ?_)
  dsimp only [Option.map_none]
  split
  · exact eachReference_nil
  · exact eachReference_nil.cons (by decide) (eachReference_definitions definitions)

end

/-- No reference of a document leads nowhere. For a valid model and a root object that it has, if
one is asked for, there is a document, and each reference in it, however deep it stands, leads to
the document itself, which describes the root object, or to a definition that describes its name. -/
theorem document_references_lead (reading : Dialect.Reading)
    (valid : (Validation.reportOf reading).isValid = true) (request : Request)
    (rooted : ∀ name, request.root = some name → ∃ o ∈ reading.model.objects, o.name = name) :
    ∃ document : Fields,
      renderRequest reading.model request = .ok (Json.object document).pretty ∧
      ∀ reference, HasReference reference (.object document) →
        Leads reading.model request document reference := by
  have h := referable_of_wellFormed (Validation.wellFormed_of_isValid valid)
  generalize reading.model = m at *
  have known : ∃ root, rootObject m request = .ok root ∧ (root = none → m.objects = []) := by
    unfold rootObject
    cases hr : request.root with
    | none => exact ⟨_, rfl, List.head?_eq_none_iff.1⟩
    | some name =>
      obtain ⟨o, ho, hn⟩ := rooted name hr
      have found : (m.object? name).isSome = true :=
        List.find?_isSome.2 ⟨o, ho, by simpa using hn⟩
      obtain ⟨first, hf⟩ := Option.isSome_iff_exists.1 found
      exact ⟨some first, by simp only [hf], fun e => nomatch e⟩
  obtain ⟨root, hr, empty⟩ := known
  have text : renderRequest m request = .ok (documentOf m request root).pretty := by
    rw [renderRequest, document, hr]
    rfl
  cases root with
  | some root => exact ⟨_, text, leads_document h hr⟩
  | none => exact ⟨_, text, eachReference_rootless h (empty rfl)⟩

/-- A shelf of books of several genres; a book knows its shelf and its sequel. -/
def shelfModel : DataModel where
  objects :=
    [{ name := "Shelf"
       attributes :=
         [{ name := "books", dtypes := ["Book"], multiple := true, xml := .ofElement "books" }] },
     { name := "Book"
       attributes :=
         [{ name := "shelf", dtypes := ["Shelf"], xml := .ofElement "shelf" },
          { name := "sequel", dtypes := ["Book", "string"], xml := .ofElement "sequel" },
          { name := "genre", dtypes := ["Genre"], xml := .ofElement "genre" }] }]
  enums := [{ name := "Genre", mappings := .ofList [("NOVEL", "novel"), ("POEM", "poem")] }]

theorem isValid_shelfModel : (Validation.reportOf { model := shelfModel }).isValid = true := by
  refine Validation.isValid_of_rules (.inl (by simp [shelfModel])) ?_ ?_ <;> decide

theorem shelfModel_references_lead :
    ((Validation.reportOf { model := shelfModel }).isValid = true ∧
      ∀ name, some "Book" = some name → ∃ o ∈ shelfModel.objects, o.name = name) ∧
    ∃ document : Fields,
      renderRequest shelfModel { root := some "Book", strict := true } =
        .ok (Json.object document).pretty ∧
      ∀ reference, HasReference reference (.object document) →
        Leads shelfModel { root := some "Book", strict := true } document reference := by
  have rooted : ∀ name, some "Book" = some name → ∃ o ∈ shelfModel.objects, o.name = name := by
    intro name hn
    cases hn
    exact ⟨_, List.mem_cons_of_mem _ List.mem_cons_self, rfl⟩
  exact ⟨⟨isValid_shelfModel, rooted⟩,
    document_references_lead { model := shelfModel } isValid_shelfModel
      { root := some "Book", strict := true } rooted⟩

end Target.JsonSchema
end DocModel

import DocModel.Proofs.JsonSchema.Needed

/-!
# DocModel.Proofs.JsonSchema.ObjectSchemas

Every schema of an object says which properties there are and which of them are required, wherever
it stands in a document: `object_schemas_state` finds it at the root, among the definitions, and at
any depth inside other schemas.

* `Holds` finds the schemas in a schema, `Occurs` those at any depth, and `EachSchema` says
  something of all of them;
* an attribute writes its keywords into the schema of its type. `keywords_annotations` lists them:
  none of them finds a schema or belongs to what the schema of an object says (`lookup_beside`);
* `eachSchema_typeSchema` is an induction on the fuel, for any keywords beside the schema.
-/

namespace DocModel
namespace Target.JsonSchema

/-! ## Schemas in schemas -/

/-- A schema with these fields holds a schema. -/
inductive Holds (fields : Fields) (schema : Json) : Prop where
  | named {key : String} (names : key ∈ ["properties", "$defs"]) (schemas : Fields)
    (found : fields.lookup key = some (.object schemas)) {name : String}
    (mem : (name, schema) ∈ schemas)
  | items (found : fields.lookup "items" = some schema)
  /-- As one of several schemas, one or all of which are met. -/
  | several {key : String} (combines : key ∈ ["anyOf", "allOf"]) (schemas : List Json)
    (found : fields.lookup key = some (.array schemas)) (mem : schema ∈ schemas)

/-- The names of the fields in which a schema holds others. -/
def holderKeys : List String := ["properties", "$defs"] ++ "items" :: ["anyOf", "allOf"]

/-- A schema occurs in another, itself included. -/
inductive Occurs (schema : Fields) : Json → Prop where
  | here : Occurs schema (.object schema)
  | inside {fields : Fields} {value : Json} (holds : Holds fields value)
    (occurs : Occurs schema value) : Occurs schema (.object fields)

/-- A property of every schema that occurs in a schema. -/
def EachSchema (p : Fields → Prop) (value : Json) : Prop :=
  ∀ schema, Occurs schema value → p schema

section

variable {p : Fields → Prop} {fields more : Fields}

theorem eachSchema_object (here : p fields)
    (inside : ∀ value, Holds fields value → EachSchema p value) :
    EachSchema p (.object fields) := by
  intro schema occurs
  cases occurs with
  | here => exact here
  | inside holds occurs => exact inside _ holds schema occurs

theorem not_holds {value : Json} (h : ∀ key ∈ holderKeys, fields.lookup key = none) :
    ¬ Holds fields value := by
  rintro (@⟨key, names, schemas, found, -⟩ | found | @⟨key, combines, schemas, found, -⟩)
  · rw [h key (List.mem_append_left _ names)] at found
    cases found
  · rw [h "items" (by decide)] at found
    cases found
  · rw [h key (List.mem_append_right _ (List.mem_cons_of_mem _ combines))] at found
    cases found

theorem Holds.of_lookup {value : Json} {others : Fields} (h : Holds fields value)
    (same : ∀ key ∈ holderKeys, others.lookup key = fields.lookup key) : Holds others value := by
  cases h with
  | @named key names schemas found name mem =>
    exact .named names schemas ((same key (List.mem_append_left _ names)).trans found) mem
  | items found => exact .items ((same "items" (by decide)).trans found)
  | @several key combines schemas found mem =>
    have holder : key ∈ holderKeys := List.mem_append_right _ (List.mem_cons_of_mem _ combines)
    exact .several combines schemas ((same key holder).trans found) mem

/-! ## Keywords beside a schema -/

/-- The names of the fields that an attribute adds. -/
def keywordNames : List String := ["description", "$term", "default", "pattern"] ++
  boundKeywords.map (·.2)

def Keywords (fields : Fields) : Prop := ∀ field ∈ fields, field.1 ∈ keywordNames

theorem keywords_nil : Keywords [] := fun _ hf => absurd hf List.not_mem_nil

theorem keywords_annotations (m : DataModel) (a : Attribute) : Keywords (annotations m a) := by
  intro field hf
  have first : ∀ name ∈ ["description", "$term", "default", "pattern"], name ∈ keywordNames :=
    fun name => List.mem_append_left _
  simp only [annotations, List.mem_append, List.mem_map, List.mem_filterMap] at hf
  rcases hf with (((described | ⟨term, -, rfl⟩) | ⟨value, -, rfl⟩) | ⟨bound, mem, found⟩) |
    ⟨pattern, -, rfl⟩
  · have name := (names_describe a.docstring).mem (List.mem_map_of_mem described)
    exact first _ (List.mem_singleton.1 name ▸ List.mem_cons_self)
  · exact first "$term" (by decide)
  · exact first "default" (by decide)
  · obtain ⟨n, -, rfl⟩ := Option.map_eq_some_iff.1 found
    exact List.mem_append_right _ (List.mem_map.2 ⟨bound, mem, rfl⟩)
  · exact first "pattern" (by decide)

theorem lookup_beside (h : Keywords more) {key : String} (other : key ∉ keywordNames) :
    (fields.putAll more).lookup key = fields.lookup key := by
  have absent : more.reverse.lookup key = none :=
    lookup_reverse_eq_none fun field hf same => other (same ▸ h field hf)
  rw [lookup_putAll, absent, Option.none_or]

theorem Holds.of_beside (h : Keywords more) {value : Json}
    (holds : Holds (fields.putAll more) value) : Holds fields value := by
  have other : ∀ key ∈ holderKeys, key ∉ keywordNames := by decide
  exact holds.of_lookup fun key hk => (lookup_beside h (other key hk)).symm

end

/-! ## What the schema of an object says -/

/-- The attributes that an object has to have: every one, or those that are required or identify
it. -/
def demanded (strict : Bool) (o : Object) : List String :=
  if strict then o.attributes.map (·.name)
  else (o.attributes.filter fun a => a.required || a.isId).map (·.name)

/-- A list of names as a value; there is none if no name is listed. -/
def listed (names : List String) : Option Json :=
  if names = [] then none else some (.array (names.map .string))

/-- Fields that describe an object and say which of its properties are required. -/
structure StatesObject (strict : Bool) (o : Object) (fields : Fields) : Prop where
  /-- Its name is the title, and its attributes are the properties. -/
  describes : DescribesObject o fields
  distinct : (o.attributes.map (·.name)).Nodup
  /-- The required properties are those that an object has to have, in their order. -/
  required : fields.lookup "required" = listed (demanded strict o)
  /-- Other properties are allowed unless every one is required. -/
  closed : fields.lookup "additionalProperties" = if strict then some (.bool false) else none

/-- The names of the fields in which the schema of an object says so. -/
def objectKeys : List String := ["title", "type", "properties", "required", "additionalProperties"]

theorem StatesObject.of_lookup {strict : Bool} {o : Object} {fields others : Fields}
    (h : StatesObject strict o fields)
    (same : ∀ key ∈ objectKeys, others.lookup key = fields.lookup key) :
    StatesObject strict o others := by
  obtain ⟨properties, found, names⟩ := h.describes.properties
  exact {
    describes := {
      title := (same "title" (by decide)).trans h.describes.title
      type := (same "type" (by decide)).trans h.describes.type
      properties := ⟨properties, (same "properties" (by decide)).trans found, names⟩ }
    distinct := h.distinct
    required := (same "required" (by decide)).trans h.required
    closed := (same "additionalProperties" (by decide)).trans h.closed }

theorem requiredNames_eq (strict : Bool) (o : Object) :
    requiredNames strict o = demanded strict o := by
  cases strict with
  | true => simp [requiredNames, demanded]
  | false => rfl

theorem lookup_putAll_distinct {fields : Fields} (distinct : (fields.map (·.1)).Nodup)
    (key : String) : (Fields.putAll [] fields).lookup key = fields.lookup key := by
  cases found : fields.lookup key with
  | some value =>
    obtain ⟨before, after, split, -⟩ := List.lookup_eq_some_iff.1 found
    exact lookup_putAll_nil distinct (key, value) (by rw [split]; simp)
  | none =>
    rw [lookup_putAll, List.lookup_nil, Option.or_none]
    exact lookup_reverse_eq_none fun field hf same =>
      absurd (List.lookup_eq_none_iff.1 found field hf) (by simp [same])

theorem lookup_heading {o : Object} {key : String}
    (other : key ∉ ["title", "type", "description"]) : (heading o).lookup key = none := by
  refine List.lookup_eq_none_iff.2 fun field hf => ?_
  have name : field.1 ∈ ["title", "type"] ++ ["description"] := by
    rcases List.mem_append.1 hf with hf | hf
    · exact List.mem_append_left _ (List.mem_map_of_mem (f := Prod.fst) hf)
    · exact List.mem_append_right _ ((names_describe _).mem (List.mem_map_of_mem hf))
  simpa using fun same : key = field.1 => other (same ▸ name)

theorem lookup_objectFields {strict : Bool} {o : Object} {properties : Fields} {key : String}
    (after : key ∈ ["required", "additionalProperties"]) :
    (objectFields strict o properties).lookup key = (ending strict o).lookup key := by
  have other : key ∉ ["title", "type", "description"] ∧ key ≠ "properties" := by
    revert key
    decide
  rw [objectFields_eq, lookup_putAll_distinct (names_objectFields strict o properties),
    List.lookup_append, lookup_heading other.1, Option.none_or, lookup_entry, if_neg other.2]

theorem statesObject (m : DataModel) (strict : Bool) {o : Object}
    (distinct : (o.attributes.map (·.name)).Nodup) (b : SchemaScope) (fuel : Nat)
    (path : List String) : StatesObject strict o
      (Schema.fields m strict (.object o (attributeSchemas b fuel path o))) := by
  refine ⟨describesObject m strict o b fuel path, distinct, ?required, ?closed⟩
  case required =>
    rw [Schema.fields, lookup_objectFields (by decide), ending, requiredNames_eq]
    cases hd : demanded strict o <;> cases strict <;> simp [listed, lookup_entry]
  case closed =>
    rw [Schema.fields, lookup_objectFields (by decide), ending]
    cases requiredNames strict o <;> cases strict <;> simp [lookup_entry]

/-- If the fields are those of an object, they describe one of the model. -/
def StatesKnown (m : DataModel) (strict : Bool) (fields : Fields) : Prop :=
  fields.lookup "type" = some (.string "object") →
    ∃ o, m.object? o.name = some o ∧ StatesObject strict o fields

/-- Fields of a schema that is not the one of an object and holds no other. -/
structure Flat (fields : Fields) : Prop where
  noObject : fields.lookup "type" ≠ some (.string "object")
  holdsNone : ∀ field ∈ fields, field.1 ∉ holderKeys

theorem flat_primitiveFields (p : Primitive) : Flat (primitiveFields p) := by
  cases p <;> exact ⟨by simp [primitiveFields, lookup_entry], by decide⟩

theorem flat_memberFields (e : Enumeration) : Flat (memberFields e) := by
  constructor
  · rw [(describesEnumeration e).type]
    simp
  · intro field hf
    have name : field.1 ∈ ["title", "type"] ++ ["description"] ++ ["enum"] := by
      have mem := (mem_putAll hf).resolve_left List.not_mem_nil
      simp only [List.mem_append] at mem ⊢
      rcases mem with (mem | mem) | mem
      · exact .inl (.inl (List.mem_map_of_mem (f := Prod.fst) mem))
      · exact .inl (.inr ((names_describe _).mem (List.mem_map_of_mem mem)))
      · exact .inr (List.mem_map_of_mem (f := Prod.fst) mem)
    have free : ∀ name ∈ ["title", "type"] ++ ["description"] ++ ["enum"], name ∉ holderKeys := by
      decide
    exact free _ name

theorem flat_reference (reference : Json) : Flat [("$ref", reference)] := by
  refine ⟨by simp [lookup_entry], fun field hf => ?_⟩
  have free : "$ref" ∉ holderKeys := by decide
  rwa [List.mem_singleton.1 hf]

theorem PlainSchema.flat {m : DataModel} {dtype : String} {schema : Schema}
    (h : PlainSchema m dtype schema) (strict : Bool) : Flat (schema.fields m strict) := by
  cases h with
  | primitive p => exact flat_primitiveFields p
  | members e => exact flat_memberFields e
  | anything => exact ⟨by simp [Schema.fields], fun _ hf => absurd hf List.not_mem_nil⟩

/-! ## Every schema that is built -/

section

variable {m : DataModel} {b : SchemaScope} {strict : Bool} {fields more : Fields}

theorem Flat.eachSchema (h : Flat fields) (keywords : Keywords more) :
    EachSchema (StatesKnown m strict) (.object (fields.putAll more)) := by
  refine eachSchema_object (fun object => ?_) fun value holds => ?_
  · rw [lookup_beside keywords (by decide)] at object
    exact absurd object h.noObject
  · refine absurd (holds.of_beside keywords) (not_holds fun key hk => ?_)
    refine List.lookup_eq_none_iff.2 fun field hf => ?_
    simpa using fun same : key = field.1 => h.holdsNone field hf (same ▸ hk)

theorem mem_of_holds_anyOf {schemas : List Json} {value : Json}
    (h : Holds [("anyOf", .array schemas)] value) : value ∈ schemas := by
  cases h with
  | named names others found mem =>
    simp only [List.mem_cons, List.not_mem_nil, or_false] at names
    rcases names with rfl | rfl <;> simp [lookup_entry] at found
  | items found => simp [lookup_entry] at found
  | several combines others found mem =>
    simp only [List.mem_cons, List.not_mem_nil, or_false] at combines
    rcases combines with rfl | rfl
    · cases found
      exact mem
    · simp [lookup_entry] at found

theorem eq_of_holds_items {item type value : Json}
    (h : Holds [("items", item), ("type", type)] value) : value = item := by
  cases h with
  | named names others found mem =>
    simp only [List.mem_cons, List.not_mem_nil, or_false] at names
    rcases names with rfl | rfl <;> simp [lookup_entry] at found
  | items found =>
    cases found
    rfl
  | several combines others found mem =>
    simp only [List.mem_cons, List.not_mem_nil, or_false] at combines
    rcases combines with rfl | rfl <;> simp [lookup_entry] at found

/-- Every schema in some schemas, with any keywords beside each of them. -/
def EachOf (m : DataModel) (strict : Bool) (schemas : List Schema) : Prop :=
  ∀ schema ∈ schemas, ∀ more, Keywords more →
    EachSchema (StatesKnown m strict) (.object ((schema.fields m strict).putAll more))

theorem EachOf.plain {schemas : List Schema} (h : EachOf m strict schemas) {value : Json}
    (hv : value ∈ schemaList m strict schemas) : EachSchema (StatesKnown m strict) value := by
  obtain ⟨schema, hs, rfl⟩ := mem_schemaList hv
  exact h schema hs [] keywords_nil

theorem eachSchema_alternatives {schemas : List Schema} (h : EachOf m strict schemas)
    (keywords : Keywords more) : EachSchema (StatesKnown m strict)
      (.object ((alternativeFields (schemaList m strict schemas)).putAll more)) := by
  cases schemas with
  | nil =>
    have empty : Flat [] := ⟨by simp, fun _ hf => absurd hf List.not_mem_nil⟩
    exact empty.eachSchema keywords
  | cons first rest =>
    cases rest with
    | nil => exact h first List.mem_cons_self more keywords
    | cons second rest =>
      -- the keywords stand beside the list of alternatives, and beside none of them
      refine eachSchema_object (fun object => ?_) fun value holds => ?_
      · rw [lookup_beside keywords (by decide)] at object
        cases object
      · exact h.plain (mem_of_holds_anyOf (holds.of_beside keywords))

theorem eachSchema_property {a : Attribute} {schemas : List Schema} (h : EachOf m strict schemas) :
    EachSchema (StatesKnown m strict)
      (.object (propertyFields m a (schemaList m strict schemas))) := by
  have keywords := keywords_annotations m a
  unfold propertyFields
  dsimp only
  split
  · refine eachSchema_object (fun object => ?_) fun value holds => ?_
    · rw [lookup_beside keywords (by decide)] at object
      simp [lookup_entry] at object
    · rw [eq_of_holds_items (holds.of_beside keywords)]
      exact eachSchema_alternatives h keywords_nil
  · exact eachSchema_alternatives h keywords

theorem mem_of_holds_object {o : Object} {properties : Fields} {value : Json}
    (h : Holds (objectFields strict o properties) value) : ∃ name, (name, value) ∈ properties := by
  have distinct := names_objectFields strict o properties
  have found : (objectFields strict o properties).lookup "properties" =
      some (.object properties) := by
    rw [objectFields_eq]
    exact lookup_putAll_nil distinct ("properties", .object properties) (by simp)
  have others : ∀ key ∈ "$defs" :: "items" :: ["anyOf", "allOf"],
      (objectFields strict o properties).lookup key = none := by
    intro key hk
    have apart : ∀ key ∈ "$defs" :: "items" :: ["anyOf", "allOf"],
        key ∉ ["title", "type", "description"] ∧ key ≠ "properties" ∧
          key ∉ ["required", "additionalProperties"] := by
      decide
    obtain ⟨before, here, after⟩ := apart key hk
    have absent : (ending strict o).lookup key = none :=
      List.lookup_eq_none_iff.2 fun field hf => by
        have name := (names_ending strict o).mem (List.mem_map_of_mem hf)
        simpa using fun same : key = field.1 => after (same ▸ name)
    rw [objectFields_eq, lookup_putAll_distinct distinct, List.lookup_append,
      lookup_heading before, Option.none_or, lookup_entry, if_neg here, absent]
  cases h with
  | @named key names schemas held name mem =>
    rcases List.mem_cons.1 names with rfl | names
    · rw [found] at held
      cases held
      exact ⟨name, mem⟩
    · rw [others key (List.mem_singleton.1 names ▸ List.mem_cons_self)] at held
      cases held
  | items held =>
    rw [others "items" (by decide)] at held
    cases held
  | @several key combines schemas held mem =>
    rw [others key (List.mem_cons_of_mem _ (List.mem_cons_of_mem _ combines))] at held
    cases held

theorem eachSchema_object_beside {o : Object} {fuel : Nat} {path : List String}
    (known : b.model.object? o.name = some o) (distinct : (o.attributes.map (·.name)).Nodup)
    (h : ∀ a ∈ o.attributes, EachOf b.model strict (a.dtypes.map (b.typeSchema fuel path)))
    (keywords : Keywords more) : EachSchema (StatesKnown b.model strict)
      (.object ((Schema.fields b.model strict (.object o (attributeSchemas b fuel path o))).putAll
        more)) := by
  have states := statesObject b.model strict distinct b fuel path
  refine eachSchema_object (fun _ => ⟨o, known, states.of_lookup fun key hk => ?_⟩)
    fun value holds => ?_
  · have other : ∀ key ∈ objectKeys, key ∉ keywordNames := by decide
    exact lookup_beside keywords (other key hk)
  -- the keywords hold nothing: what is held belongs to a property of the object
  · have holds := holds.of_beside keywords
    rw [Schema.fields] at holds
    obtain ⟨name, mem⟩ := mem_of_holds_object holds
    rw [propertiesFields_eq] at mem
    obtain ⟨property, hp, entry⟩ := List.mem_map.1 ((mem_putAll mem).resolve_left List.not_mem_nil)
    cases entry
    obtain ⟨a, ha, rfl⟩ := List.mem_map.1 hp
    exact eachSchema_property (h a ha)

/-- A model whose attributes have distinct names in each object. -/
def Distinct (m : DataModel) : Prop := ∀ o ∈ m.objects, (o.attributes.map (·.name)).Nodup

/-- The schema of a type, whatever it is inside of and whatever stands beside it. -/
theorem eachSchema_typeSchema (distinct : Distinct b.model) (fuel : Nat) (path : List String)
    (dtypes : List String) : EachOf b.model strict (dtypes.map (b.typeSchema fuel path)) := by
  -- on the fuel, with any keywords: those of an attribute go into the schema of an object put there
  induction fuel using Nat.strongRecOn generalizing path dtypes with
  | ind fuel ih =>
    intro schema hs more keywords
    obtain ⟨dtype, -, rfl⟩ := List.mem_map.1 hs
    have view := typeView (b := b) fuel path dtype
    generalize b.typeSchema fuel path dtype = schema at view
    cases view with
    | plain means => exact (means.flat strict).eachSchema keywords
    | plainReference => exact (flat_reference _).eachSchema keywords
    | root => exact (flat_reference _).eachSchema keywords
    | objectReference => exact (flat_reference _).eachSchema keywords
    | object o found less inner lt =>
      have known : b.model.object? o.name = some o := by rwa [DataModel.name_of_object? found]
      exact eachSchema_object_beside known (distinct o (DataModel.mem_of_object? found))
        (fun a _ => ih less lt inner a.dtypes) keywords

theorem eachSchema_objectSchema (distinct : Distinct b.model) {o : Object}
    (known : b.model.object? o.name = some o) : EachSchema (StatesKnown b.model strict)
      (.object ((b.objectSchema o).fields b.model strict)) :=
  eachSchema_object_beside known (distinct o (DataModel.mem_of_object? known))
    (fun a _ => eachSchema_typeSchema distinct _ _ a.dtypes) keywords_nil

theorem eachSchema_definitionSchema (distinct : Distinct b.model) (name : String) :
    EachSchema (StatesKnown b.model strict)
      (.object ((b.definitionSchema name).fields b.model strict)) := by
  unfold SchemaScope.definitionSchema
  split
  · next o found =>
    exact eachSchema_objectSchema distinct (by rwa [DataModel.name_of_object? found])
  · split
    · exact (flat_memberFields _).eachSchema keywords_nil
    · have empty : Flat [] := ⟨by simp, fun _ hf => absurd hf List.not_mem_nil⟩
      exact empty.eachSchema keywords_nil

end

/-! ## Documents -/

section

variable {m : DataModel} {request : Request} {root : Object}

theorem lookup_document {key : String} (own : key ∉ documentKeys) :
    (documentFields m request root).lookup key = (body m request root).lookup key := by
  rw [← rootFields_documentFields, rootFields,
    lookup_filter_name (fun name => !documentKeys.contains name), if_pos (by simpa using own)]

/-- What a document holds is held by its root schema or is a definition. -/
theorem holds_document {value : Json} (h : Holds (documentFields m request root) value) :
    Holds (body m request root) value ∨
      ∃ entry ∈ definitionsOf m request root,
        value = .object (entry.2.fields m request.strict) := by
  have same : ∀ key ∈ "properties" :: "items" :: ["anyOf", "allOf"],
      (documentFields m request root).lookup key = (body m request root).lookup key := by
    have own : ∀ key ∈ "properties" :: "items" :: ["anyOf", "allOf"], key ∉ documentKeys := by
      decide
    exact fun key hk => lookup_document (own key hk)
  cases h with
  | @named key names schemas found name mem =>
    rcases List.mem_cons.1 names with rfl | names
    · rw [same _ (by decide)] at found
      exact .inl (.named (by decide) schemas found mem)
    · rw [List.mem_singleton.1 names, lookup_definitions] at found
      split at found
      · cases found
      · cases found
        obtain ⟨entry, he, field⟩ := List.mem_map.1 ((mem_putAll mem).resolve_left List.not_mem_nil)
        cases field
        exact .inr ⟨entry, he, rfl⟩
  | items found => exact .inl (.items ((same "items" (by decide)).symm.trans found))
  | @several key combines schemas found mem =>
    have key := same key (List.mem_cons_of_mem _ (List.mem_cons_of_mem _ combines))
    exact .inl (.several combines schemas (key.symm.trans found) mem)

theorem EachSchema.of_holds {p : Fields → Prop} {fields : Fields}
    (h : EachSchema p (.object fields)) {value : Json} (holds : Holds fields value) :
    EachSchema p value :=
  fun schema occurs => h schema (.inside holds occurs)

theorem statesObject_document (distinct : Distinct m) (found : m.object? root.name = some root) :
    StatesObject request.strict root (documentFields m request root) := by
  have states : StatesObject request.strict root (body m request root) :=
    statesObject m request.strict (distinct root (DataModel.mem_of_object? found)) _ _ _
  have own : ∀ key ∈ objectKeys, key ∉ documentKeys := by decide
  exact states.of_lookup fun key hk => lookup_document (own key hk)

theorem eachSchema_document (distinct : Distinct m) (found : m.object? root.name = some root) :
    EachSchema (StatesKnown m request.strict) (.object (documentFields m request root)) := by
  refine eachSchema_object (fun _ => ⟨root, found, statesObject_document distinct found⟩)
    fun value holds => ?_
  rcases holds_document holds with holds | ⟨entry, he, rfl⟩
  · exact (eachSchema_objectSchema (b := scopeOf m root request.inline) distinct found).of_holds
      holds
  · obtain ⟨-, means, -⟩ := definitions_complete (b := scopeOf m root request.inline)
      (references_root found)
    rw [means entry he]
    exact eachSchema_definitionSchema (b := scopeOf m root request.inline) distinct entry.1

/-- Fields of a document besides its root schema, with definitions of some form. -/
def Apart (p : Json → Prop) (fields : Fields) : Prop :=
  ∀ field ∈ fields, field.1 ∈ ["$schema", "$id"] ∨
    ∃ definitions, field = ("$defs", .object definitions) ∧ ∀ entry ∈ definitions, p entry.2

theorem mem_of_lookup_putAll {fields : Fields} {key : String} {value : Json}
    (h : (Fields.putAll [] fields).lookup key = some value) : (key, value) ∈ fields := by
  obtain ⟨before, after, split, -⟩ := List.lookup_eq_some_iff.1 h
  have mem : (key, value) ∈ Fields.putAll [] fields := by rw [split]; simp
  exact (mem_putAll mem).resolve_left List.not_mem_nil

theorem Apart.of_holds {p : Json → Prop} {fields : Fields} (h : Apart p fields) {value : Json}
    (holds : Holds (Fields.putAll [] fields) value) : p value := by
  have front : ∀ key ∈ ["$schema", "$id"], key ∉ holderKeys := by decide
  cases holds with
  | @named key names schemas found name mem =>
    rcases h _ (mem_of_lookup_putAll found) with own | ⟨definitions, same, all⟩
    · exact absurd (List.mem_append_left _ names) (front key own)
    · cases same
      exact all _ mem
  | items found =>
    rcases h _ (mem_of_lookup_putAll found) with own | ⟨definitions, same, -⟩
    · exact absurd (by decide) (front "items" own)
    · have key : "items" = "$defs" := congrArg Prod.fst same
      exact absurd key (by decide)
  | @several key combines schemas found mem =>
    rcases h _ (mem_of_lookup_putAll found) with own | ⟨definitions, same, -⟩
    · exact absurd (List.mem_append_right _ (List.mem_cons_of_mem _ combines)) (front key own)
    · cases same

/-- A document without a root object says nothing of objects by itself. -/
theorem eachSchema_rootless (distinct : Distinct m) :
    EachSchema (StatesKnown m request.strict) (documentOf m request none) := by
  let b : SchemaScope := { model := m, root := none, inline := request.inline }
  let entries := (b.definitions (m.enums.map (·.name))).map fun entry =>
    (entry.1, Json.object (entry.2.fields m request.strict))
  have apart : Apart (EachSchema (StatesKnown m request.strict)) (front m ++ [] ++
      if entries.isEmpty then [] else [("$defs", .object (Fields.putAll [] entries))]) := by
    intro field hf
    rw [List.append_nil] at hf
    rcases List.mem_append.1 hf with hf | hf
    · exact .inl (front_keys field hf)
    · split at hf
      · cases hf
      · refine .inr ⟨_, List.mem_singleton.1 hf, fun entry he => ?_⟩
        obtain ⟨definition, hd, rfl⟩ :=
          List.mem_map.1 ((mem_putAll he).resolve_left List.not_mem_nil)
        have means := (forall_definitions (b := b) (p := fun _ => True) (fun _ _ => trivial)
          (fun _ _ _ _ => trivial) definition hd).2
        rw [means]
        exact eachSchema_definitionSchema (b := b) distinct definition.1
  refine eachSchema_object (fun object => ?_) fun value holds => apart.of_holds holds
  rcases apart _ (mem_of_lookup_putAll object) with own | ⟨definitions, same, -⟩
  · exact absurd own (by decide)
  · have key : "type" = "$defs" := congrArg Prod.fst same
    exact absurd key (by decide)

theorem exists_rootObject
    (rooted : ∀ name, request.root = some name → ∃ o ∈ m.objects, o.name = name) :
    ∃ root, rootObject m request = .ok root := by
  unfold rootObject
  cases named : request.root with
  | none => exact ⟨_, rfl⟩
  | some name =>
    obtain ⟨o, ho, rfl⟩ := rooted name named
    obtain ⟨first, found⟩ := DataModel.mem_objectNames_iff.1 (List.mem_map.2 ⟨o, ho, rfl⟩)
    exact ⟨some first, by simp only [found]⟩

end

/-- Wherever the schema of an object stands in the document of a valid model, the keys of its
properties are the attributes of the object of its title, and it requires those that the object has
to have. The document is such a schema itself if there is a root object, and the keywords of an
attribute leave what a schema says of an object as it is. -/
theorem object_schemas_state (reading : Dialect.Reading)
    (valid : (Validation.reportOf reading).isValid = true) (request : Request)
    (rooted : ∀ name, request.root = some name → ∃ o ∈ reading.model.objects, o.name = name) :
    ∃ document : Fields,
      renderRequest reading.model request = .ok (Json.object document).pretty ∧
      (∀ root, rootObject reading.model request = .ok (some root) →
        StatesObject request.strict root document) ∧
      (∀ schema, Occurs schema (.object document) →
        schema.lookup "type" = some (.string "object") →
          ∃ o, reading.model.object? o.name = some o ∧ StatesObject request.strict o schema) ∧
      ∀ (schema : Fields) (a : Attribute), ∀ key ∈ objectKeys,
        (schema.putAll (annotations reading.model a)).lookup key = schema.lookup key := by
  have distinct : Distinct reading.model :=
    (Validation.wellFormed_of_isValid valid).distinctAttributes
  generalize reading.model = m at *
  obtain ⟨root, hr⟩ := exists_rootObject rooted
  have text : renderRequest m request = .ok (documentOf m request root).pretty := by
    rw [renderRequest, document, hr]
    rfl
  have keywords : ∀ (schema : Fields) (a : Attribute), ∀ key ∈ objectKeys,
      (schema.putAll (annotations m a)).lookup key = schema.lookup key := by
    have other : ∀ key ∈ objectKeys, key ∉ keywordNames := by decide
    exact fun schema a key hk => lookup_beside (keywords_annotations m a) (other key hk)
  cases root with
  | some root =>
    have found := object?_rootObject hr
    refine ⟨documentFields m request root, text, fun other ho => ?_,
      eachSchema_document distinct found, keywords⟩
    obtain rfl : root = other := by
      rw [hr] at ho
      injection ho with ho
      exact Option.some.inj ho
    exact statesObject_document distinct found
  | none =>
    refine ⟨_, text, fun other ho => ?_, eachSchema_rootless distinct, keywords⟩
    rw [hr] at ho
    cases ho

theorem shelfModel_object_schemas_state :
    ((Validation.reportOf { model := shelfModel }).isValid = true ∧
      ∀ name, some "Shelf" = some name → ∃ o ∈ shelfModel.objects, o.name = name) ∧
    ∃ document : Fields,
      renderRequest shelfModel { root := some "Shelf", strict := true, inline := true } =
        .ok (Json.object document).pretty ∧
      (∀ root, rootObject shelfModel { root := some "Shelf", strict := true, inline := true } =
        .ok (some root) → StatesObject true root document) ∧
      (∀ schema, Occurs schema (.object document) →
        schema.lookup "type" = some (.string "object") →
          ∃ o, shelfModel.object? o.name = some o ∧ StatesObject true o schema) ∧
      ∀ (schema : Fields) (a : Attribute), ∀ key ∈ objectKeys,
        (schema.putAll (annotations shelfModel a)).lookup key = schema.lookup key := by
  have rooted : ∀ name, some "Shelf" = some name → ∃ o ∈ shelfModel.objects, o.name = name := by
    intro name hn
    cases hn
    exact ⟨_, List.mem_cons_self, rfl⟩
  exact ⟨⟨isValid_shelfModel, rooted⟩,
    object_schemas_state { model := shelfModel } isValid_shelfModel
      { root := some "Shelf", strict := true, inline := true } rooted⟩

end Target.JsonSchema
end DocModel

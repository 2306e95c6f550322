import DocModel.Proofs.JsonSchema.Definitions
import DocModel.Proofs.JsonSchema.Keywords

/-!
# DocModel.Proofs.JsonSchema.Inlining

Putting definitions where they are used does not change what a document says:
`documents_unfold_alike` says that the documents with and without it unfold to the same tree.

* an `Edition` is a document of a model whose references lead to what their names mean;
* `resolved_typeSchema` follows the reference of a type, if there is one, to what the type says;
* two editions then unfold alike by induction on the depth (`typesAlike`): whatever the path that a
  schema is built on, it says the same of its type.
-/

namespace DocModel
namespace Target.JsonSchema

/-! ## Documents and what their references lead to -/

def scopeOf (m : DataModel) (root : Object) (inline : Bool) : SchemaScope :=
  { model := m, root := some root.name, inline }

/-- A document of a model whose references lead to what their names mean. -/
structure Edition (m : DataModel) (strict : Bool) (root : Object) where
  /-- Whether definitions are put where they are used. -/
  inline : Bool
  document : Fields
  /-- The names that it defines. -/
  Known : String → Prop
  /-- The root object is the one of its name. -/
  rootFound : m.object? root.name = some root
  /-- The root schema is that of the root object. -/
  rootFields_eq :
    rootFields document = ((scopeOf m root inline).objectSchema root).fields m strict
  /-- What the root schema refers to is defined. -/
  rootCovered : ∀ name ∈ ((scopeOf m root inline).objectSchema root).references, Known name
  /-- A definition says what its name means. -/
  definitionFields_eq : ∀ name, Known name → definitionFields? document name =
    some (((scopeOf m root inline).definitionSchema name).fields m strict)
  /-- What a definition refers to is defined. -/
  covered : ∀ name, Known name →
    ∀ other ∈ ((scopeOf m root inline).definitionSchema name).references, Known other

/-- What a type says, without a reference. -/
inductive Meaning (b : SchemaScope) (dtype : String) : Schema → Prop where
  /-- A type that is no object. -/
  | plain {schema : Schema} (means : PlainSchema b.model dtype schema) : Meaning b dtype schema
  /-- An object, whatever it is inside of. -/
  | object (o : Object) (found : b.model.object? dtype = some o) (fuel : Nat)
    (path : List String) : Meaning b dtype (.object o (attributeSchemas b fuel path o))

namespace Edition

variable {m : DataModel} {strict : Bool} {root : Object} (d : Edition m strict root)

/-- The scope in which its schemas are built. -/
def scope : SchemaScope := scopeOf m root d.inline

/-- Whether everything that a schema refers to is defined. -/
def Covers (schema : Schema) : Prop := ∀ name ∈ schema.references, d.Known name

/-- A value of the document with its references followed, down to a depth. -/
def unfolding (n : Nat) (value : Json) : Json := unfolded d.document n value

/-- The fields of the schema of a type. -/
def typeFields (fuel : Nat) (path : List String) (dtype : String) : Fields :=
  (d.scope.typeSchema fuel path dtype).fields m strict

end Edition

theorem PlainSchema.literal {m : DataModel} {dtype : String} {schema : Schema}
    (h : PlainSchema m dtype schema) (strict : Bool) :
    LiteralFields (schema.fields m strict) := by
  cases h with
  | primitive p => exact (leaf_primitiveFields p).literal
  | members e => exact (leaf_memberFields e).literal
  | anything => exact LiteralFields.nil

theorem PlainSchema.unique {m : DataModel} {dtype : String} {schema other : Schema}
    (h : PlainSchema m dtype schema) (ho : PlainSchema m dtype other) : schema = other := by
  cases h <;> cases ho <;> simp_all

theorem not_plainSchema {m : DataModel} {dtype : String} {o : Object} {schema : Schema}
    (h : m.object? dtype = some o) : ¬ PlainSchema m dtype schema := by
  intro means
  have kind := DataModel.classify_of_object? h
  cases means with
  | primitive p kind' => rw [kind] at kind'; cases kind'
  | members e kind' => rw [kind] at kind'; cases kind'
  | anything kind' => rw [kind] at kind'; cases kind'

theorem Meaning.unreserved {b : SchemaScope} {dtype : String} {schema : Schema}
    (h : Meaning b dtype schema) (strict : Bool) :
    Unreserved (schema.fields b.model strict) := by
  cases h with
  | plain means => exact (means.literal strict).unreserved
  | object o => exact unreserved_objectFields strict o _

namespace Edition

variable {m : DataModel} {strict : Bool} {root : Object} (d : Edition m strict root)

/-- Following the reference of a type, if there is one, leads to what the type says. -/
theorem resolved_typeSchema {fuel : Nat} {path : List String} {dtype : String}
    (h : d.Covers (d.scope.typeSchema fuel path dtype)) :
    ∃ schema, Meaning d.scope dtype schema ∧ d.Covers schema ∧
      ∀ more, Unreserved more →
        resolved d.document (Fields.putAll (d.typeFields fuel path dtype) more) =
          Fields.putAll (schema.fields m strict) more := by
  have here {schema : Schema} (means : Meaning d.scope dtype schema) (more : Fields)
      (hm : Unreserved more) : resolved d.document (Fields.putAll (schema.fields m strict) more) =
        Fields.putAll (schema.fields m strict) more :=
    ((means.unreserved strict).putAll hm).resolved _
  have definition {schema : Schema} (hs : d.scope.definitionSchema dtype = schema)
      (known : d.Known dtype) (more : Fields) (hm : Unreserved more) :
      resolved d.document
          (Fields.putAll (Schema.fields m strict (.definition dtype)) more) =
        Fields.putAll (schema.fields m strict) more := by
    rw [Schema.fields]
    refine resolved_reference ?_ (ascending_fields m strict schema) hm
    rw [target?_definition, d.definitionFields_eq dtype known, ← hs]
    rfl
  have view := typeView (b := d.scope) fuel path dtype
  unfold typeFields
  generalize d.scope.typeSchema fuel path dtype = schema at h view
  cases view with
  | plain means => exact ⟨schema, .plain means, h, here (.plain means)⟩
  | plainReference means =>
    have known : d.Known dtype := h dtype List.mem_cons_self
    exact ⟨_, .plain means, d.covered dtype known, definition rfl known⟩
  | root o found isRoot =>
    have hd : dtype = root.name := (Option.some.inj isRoot).symm
    subst hd
    refine ⟨_, .object root d.rootFound _ _, d.rootCovered, fun more hm => ?_⟩
    rw [Schema.fields]
    refine resolved_reference ?_ (ascending_fields m strict _) hm
    rw [target?_root, d.rootFields_eq]
    rfl
  | objectReference o found =>
    have known : d.Known dtype := h dtype List.mem_cons_self
    have means := definitionSchema_object found
    exact ⟨_, .object o found _ _, means ▸ d.covered dtype known, definition means known⟩
  | object o found less inner =>
    exact ⟨_, .object o found less inner, h, here (.object o found less inner)⟩

end Edition

/-! ## Two editions unfold alike -/

namespace Edition

variable {m : DataModel} {strict : Bool} {root : Object} {d e : Edition m strict root}

/-- Whether the schemas of every type unfold alike to a depth, whatever they are inside of and
whatever stands beside them. -/
def TypesAlike (d e : Edition m strict root) (n : Nat) : Prop :=
  ∀ (dtype : String) (fuel other : Nat) (path way : List String) (more : Fields),
    d.Covers (d.scope.typeSchema fuel path dtype) → e.Covers (e.scope.typeSchema other way dtype) →
      LiteralFields more →
        d.unfolding n (.object (Fields.putAll (d.typeFields fuel path dtype) more)) =
          e.unfolding n (.object (Fields.putAll (e.typeFields other way dtype) more))

/-- The alternatives for the values of an attribute with these types. -/
def alternatives (d : Edition m strict root) (fuel : Nat) (path dtypes : List String) : List Json :=
  schemaList m strict (dtypes.map (d.scope.typeSchema fuel path))

theorem alternatives_eq (fuel : Nat) (path dtypes : List String) :
    d.alternatives fuel path dtypes =
      dtypes.map fun dtype => .object (d.typeFields fuel path dtype) := by
  unfold alternatives
  induction dtypes with
  | nil => rfl
  | cons dtype rest ih =>
    rw [List.map_cons, schemaList, ih]
    rfl

/-- Whether everything that an attribute refers to is defined. -/
def CoversTypes (d : Edition m strict root) (fuel : Nat) (path dtypes : List String) : Prop :=
  ∀ dtype ∈ dtypes, d.Covers (d.scope.typeSchema fuel path dtype)

theorem alternatives_alike {n : Nat} (h : ∀ k ≤ n, TypesAlike d e k) {fuel other : Nat}
    {path way dtypes : List String} (hd : d.CoversTypes fuel path dtypes)
    (he : e.CoversTypes other way dtypes) {more : Fields} (hm : LiteralFields more) :
    d.unfolding n (.object (Fields.putAll (alternativeFields (d.alternatives fuel path dtypes))
        more)) =
      e.unfolding n (.object (Fields.putAll (alternativeFields (e.alternatives other way dtypes))
        more)) := by
  rw [alternatives_eq, alternatives_eq]
  cases dtypes with
  | nil => exact literal_object (LiteralFields.nil.putAll hm) d.document e.document n
  | cons first rest =>
    cases rest with
    | nil =>
      exact h n (Nat.le_refl n) first fuel other path way more (hd first List.mem_cons_self)
        (he first List.mem_cons_self) hm
    | cons second rest =>
      -- the list of alternatives is one level down, each of them two
      have free (value : Json) : Unreserved [("anyOf", value)] := unreserved_nil.cons (by decide)
      refine unfolded_object_congr (free _) (free _) hm fun k hk => ?_
      have items : unfolded d.document k (.array ((first :: second :: rest).map
            fun dtype => .object (d.typeFields fuel path dtype))) =
          unfolded e.document k (.array ((first :: second :: rest).map
            fun dtype => .object (e.typeFields other way dtype))) :=
        unfolded_array_congr fun j hj dtype hdtype => h j (by omega) dtype fuel other path way []
          (hd dtype hdtype) (he dtype hdtype) LiteralFields.nil
      exact congrArg (fun value => [("anyOf", value)]) items

theorem property_alike {n : Nat} (h : ∀ k ≤ n, TypesAlike d e k) {fuel other : Nat}
    {path way : List String} {a : Attribute} (hd : d.CoversTypes fuel path a.dtypes)
    (he : e.CoversTypes other way a.dtypes) :
    d.unfolding n (.object (propertyFields m a (d.alternatives fuel path a.dtypes))) =
      e.unfolding n (.object (propertyFields m a (e.alternatives other way a.dtypes))) := by
  have hm := (leaf_annotations m a).literal
  unfold propertyFields
  by_cases multiple : a.multiple = true
  · simp only [multiple, if_true]
    have free (value : Json) : Unreserved [("items", value), ("type", .string "array")] :=
      (unreserved_nil.cons (by decide)).cons (by decide)
    refine unfolded_object_congr (free _) (free _) hm fun k hk => ?_
    have item := alternatives_alike (fun j (hj : j ≤ k) => h j (by omega)) hd he LiteralFields.nil
    have type := literal_string "array" d.document e.document k
    unfold unfolding at item
    rw [putAll_nil, putAll_nil] at item
    simp only [mapValues, List.map_cons, List.map_nil, item, type]
  · simp only [multiple]
    exact alternatives_alike h hd he hm

theorem properties_alike {n : Nat} (h : ∀ k < n, TypesAlike d e k) {fuel other : Nat}
    {path way : List String} {o : Object}
    (hd : d.Covers (.object o (attributeSchemas d.scope fuel path o)))
    (he : e.Covers (.object o (attributeSchemas e.scope other way o))) :
    d.unfolding n (.object (propertiesFields m strict [] (attributeSchemas d.scope fuel path o))) =
      e.unfolding n
        (.object (propertiesFields m strict [] (attributeSchemas e.scope other way o))) := by
  cases n with
  | zero => rfl
  | succ n =>
    unfold unfolding
    rw [unfolded, unfolded, resolved_propertiesFields, resolved_propertiesFields,
      propertiesFields_eq, propertiesFields_eq, mapValues_putAll, mapValues_putAll]
    have fields : mapValues (unfolded d.document n)
          ((attributeSchemas d.scope fuel path o).map (propertyEntry m strict)) =
        mapValues (unfolded e.document n)
          ((attributeSchemas e.scope other way o).map (propertyEntry m strict)) := by
      unfold mapValues attributeSchemas
      rw [List.map_map, List.map_map, List.map_map, List.map_map]
      refine List.map_congr_left fun a ha => ?_
      refine congrArg (a.name, ·) (property_alike (fun k hk => h k (by omega)) ?_ ?_)
      · exact fun dtype hdtype name hn =>
          hd name (mem_references_object.2 ⟨a, ha, dtype, hdtype, hn⟩)
      · exact fun dtype hdtype name hn =>
          he name (mem_references_object.2 ⟨a, ha, dtype, hdtype, hn⟩)
    rw [fields]
    rfl

theorem meaning_alike {n : Nat} (h : ∀ k < n, TypesAlike d e k) {dtype : String}
    {schema other : Schema} (hd : Meaning d.scope dtype schema) (he : Meaning e.scope dtype other)
    (cd : d.Covers schema) (ce : e.Covers other) :
    mapValues (d.unfolding n) (schema.fields m strict) =
      mapValues (e.unfolding n) (other.fields m strict) := by
  cases hd with
  | plain means =>
    cases he with
    | plain same =>
      obtain rfl : schema = other := means.unique same
      exact (means.literal strict).mapValues_eq d.document e.document n
    | object o found => exact absurd means (not_plainSchema found)
  | object o found fuel path =>
    cases he with
    | plain means => exact absurd means (not_plainSchema found)
    | object o' found' other way =>
      obtain rfl : o = o' := Option.some.inj (found.symm.trans found')
      exact mapValues_objectFields (properties_alike h cd ce)

theorem typesAlike (n : Nat) : TypesAlike d e n := by
  induction n using Nat.strongRecOn with
  | ind n ih =>
    intro dtype fuel other path way more hd he hm
    cases n with
    | zero => rfl
    | succ n =>
      obtain ⟨schema, means, cd, followed⟩ := d.resolved_typeSchema hd
      obtain ⟨schema', means', ce, followed'⟩ := e.resolved_typeSchema he
      have same := meaning_alike (fun k (hk : k < n) => ih k (by omega)) means means' cd ce
      unfold unfolding at same ⊢
      rw [unfolded, unfolded, followed more hm.unreserved, followed' more hm.unreserved,
        mapValues_putAll, mapValues_putAll, hm.mapValues_eq d.document e.document]
      exact congrArg (fun fields => Json.object (Fields.putAll fields _)) same

theorem roots_alike (n : Nat) :
    d.unfolding n (.object (rootFields d.document)) =
      e.unfolding n (.object (rootFields e.document)) := by
  rw [d.rootFields_eq, e.rootFields_eq]
  cases n with
  | zero => rfl
  | succ n =>
    have same := meaning_alike (d := d) (e := e) (fun k (_ : k < n) => typesAlike k)
      (.object root d.rootFound _ _) (.object root e.rootFound _ _) d.rootCovered e.rootCovered
    have free (c : Edition m strict root) :
        Unreserved (((scopeOf m root c.inline).objectSchema root).fields m strict) :=
      unreserved_objectFields strict root _
    unfold unfolding at same ⊢
    rw [unfolded, unfolded, (free d).resolved, (free e).resolved]
    exact congrArg Json.object same

end Edition

/-! ## The documents of a model -/

section Documents

variable {m : DataModel} {request : Request} {root : Object}

def definitionsOf (m : DataModel) (request : Request) (root : Object) : List (String × Schema) :=
  let b := scopeOf m root request.inline
  b.definitions (b.objectSchema root).references

/-- The fields of a document before its root schema. -/
def front (m : DataModel) : Fields :=
  [("$schema", .string draft)] ++ m.config.repo.toList.map fun repo => ("$id", .string repo)

/-- The fields of the root schema. -/
def body (m : DataModel) (request : Request) (root : Object) : Fields :=
  ((scopeOf m root request.inline).objectSchema root).fields m request.strict

/-- The definitions of a document as fields. -/
def definitionEntriesOf (m : DataModel) (request : Request) (root : Object) : Fields :=
  (definitionsOf m request root).map fun entry =>
    (entry.1, .object (entry.2.fields m request.strict))

/-- The fields of a document after its root schema. -/
def back (m : DataModel) (request : Request) (root : Object) : Fields :=
  if (definitionEntriesOf m request root).isEmpty then []
  else [("$defs", .object (Fields.putAll [] (definitionEntriesOf m request root)))]

def documentFields (m : DataModel) (request : Request) (root : Object) : Fields :=
  Fields.putAll [] (front m ++ body m request root ++ back m request root)

theorem unreserved_body : Unreserved (body m request root) :=
  unreserved_objectFields request.strict root _

theorem front_keys : ∀ field ∈ front m, field.1 ∈ ["$schema", "$id"] := by
  intro field h
  unfold front at h
  cases hr : m.config.repo <;> simp [hr] at h
  · simp [h]
  · rcases h with rfl | rfl <;> simp

theorem back_keys : ∀ field ∈ back m request root, field.1 = "$defs" := by
  intro field h
  unfold back at h
  split at h
  · cases h
  · rw [List.mem_singleton.1 h]

theorem lookup_documentFields (key : String) :
    (documentFields m request root).lookup key =
      ((back m request root).reverse.lookup key).or
        (((body m request root).lookup key).or ((front m).reverse.lookup key)) := by
  have ordered : Ascending (body m request root) := ascending_fields m request.strict _
  rw [documentFields, lookup_putAll, List.reverse_append, List.reverse_append, List.lookup_append,
    List.lookup_append, ordered.lookup_reverse, List.lookup_nil, Option.or_none]

/-- A name that no field has is not found from behind either. -/
theorem lookup_reverse_eq_none {fields : Fields} {key : String}
    (h : ∀ field ∈ fields, key ≠ field.1) : fields.reverse.lookup key = none := by
  refine List.lookup_eq_none_iff.2 fun field hf => ?_
  simpa using h field (List.mem_reverse.1 hf)

theorem rootFields_documentFields :
    rootFields (documentFields m request root) = body m request root := by
  refine ext_of_lookup (List.Pairwise.filter _ (ascending_putAll_nil _))
    (ascending_fields m request.strict _) fun key => ?_
  rw [rootFields, lookup_filter_name (fun name => !documentKeys.contains name),
    lookup_documentFields]
  by_cases hk : key ∈ documentKeys
  · rw [if_neg (by simpa using hk), unreserved_body.lookup (List.mem_cons_of_mem _ hk)]
  · have hb : (back m request root).reverse.lookup key = none :=
      lookup_reverse_eq_none fun field hf e => hk (by rw [e, back_keys field hf]; decide)
    have hf : (front m).reverse.lookup key = none := by
      refine lookup_reverse_eq_none fun field hf e => hk ?_
      have sub : ∀ name ∈ ["$schema", "$id"], name ∈ documentKeys := by decide
      exact e ▸ sub field.1 (front_keys field hf)
    rw [if_pos (by simpa using hk), hb, hf, Option.none_or, Option.or_none]

/-- What stands before the root schema does not depend on the definitions. -/
theorem lookup_front {key : String} (hk : key ∈ ["$schema", "$id"]) :
    (documentFields m request root).lookup key = (front m).reverse.lookup key := by
  have reserved : ∀ name ∈ ["$schema", "$id"], name ∈ reservedKeys ∧ name ≠ "$defs" := by decide
  have hb : (back m request root).reverse.lookup key = none :=
    lookup_reverse_eq_none fun field hf e => (reserved key hk).2 (by rw [e, back_keys field hf])
  rw [lookup_documentFields, hb, unreserved_body.lookup (reserved key hk).1, Option.none_or,
    Option.none_or]

/-- A name that only one value has is found with that value. -/
theorem lookup_of_forall {α : Type} {entries : List (String × α)} {name : String} {value : α}
    (found : ∃ entry ∈ entries, entry.1 = name)
    (same : ∀ entry ∈ entries, entry.1 = name → entry.2 = value) :
    entries.lookup name = some value := by
  obtain ⟨entry, he, rfl⟩ := found
  have some : (entries.lookup entry.1).isSome := List.lookup_isSome_iff.2 ⟨entry, he, by simp⟩
  obtain ⟨v, hv⟩ := Option.isSome_iff_exists.1 some
  obtain ⟨before, after, hl, -⟩ := List.lookup_eq_some_iff.1 hv
  have mem : (entry.1, v) ∈ entries := by rw [hl]; simp
  rw [hv, ← same _ mem rfl]

theorem references_root (h : m.object? root.name = some root) :
    ∀ name ∈ ((scopeOf m root request.inline).objectSchema root).references, name ∈ typeUses m :=
  fun _ hn => references_object (b := scopeOf m root request.inline) (DataModel.mem_of_object? h) hn

theorem definitionFields_documentFields (h : m.object? root.name = some root) {name : String}
    (known : Built (definitionsOf m request root) name) :
    definitionFields? (documentFields m request root) name =
      some (((scopeOf m root request.inline).definitionSchema name).fields m request.strict) := by
  obtain ⟨-, means, -⟩ := definitions_complete (b := scopeOf m root request.inline)
    (references_root h)
  have entry : (definitionEntriesOf m request root).reverse.lookup name =
      some (.object (((scopeOf m root request.inline).definitionSchema name).fields m
        request.strict)) := by
    refine lookup_of_forall ?_ ?_
    · obtain ⟨entry, he, rfl⟩ := known
      exact ⟨_, List.mem_reverse.2 (List.mem_map.2 ⟨entry, he, rfl⟩), rfl⟩
    · intro field hf hn
      obtain ⟨entry, he, rfl⟩ := List.mem_map.1 (List.mem_reverse.1 hf)
      subst hn
      rw [means entry he]
  have some_entry : (definitionEntriesOf m request root).isEmpty = false := by
    obtain ⟨entry, he, -⟩ := known
    rw [List.isEmpty_eq_false_iff_exists_mem]
    exact ⟨_, List.mem_map.2 ⟨entry, he, rfl⟩⟩
  have defs : (documentFields m request root).lookup "$defs" =
      some (.object (Fields.putAll [] (definitionEntriesOf m request root))) := by
    rw [lookup_documentFields, back, some_entry]
    rfl
  rw [definitionFields?, defs, Option.bind_some, Json.field?, Json.fields?]
  change ((Fields.putAll [] (definitionEntriesOf m request root)).lookup name).bind _ = _
  rw [lookup_putAll, entry]
  rfl

/-- The document of a model, with definitions put where they are used or not. -/
def editionOf (m : DataModel) (request : Request) (root : Object)
    (h : m.object? root.name = some root) : Edition m request.strict root where
  inline := request.inline
  document := documentFields m request root
  Known := Built (definitionsOf m request root)
  rootFound := h
  rootFields_eq := rootFields_documentFields
  rootCovered := (definitions_complete (b := scopeOf m root request.inline) (references_root h)).1
  definitionFields_eq _ known := definitionFields_documentFields h known
  covered := by
    intro name known other ho
    obtain ⟨-, means, complete⟩ :=
      definitions_complete (b := scopeOf m root request.inline) (references_root h)
    obtain ⟨entry, he, rfl⟩ := known
    exact complete entry he other (means entry he ▸ ho)

theorem object?_rootObject (h : rootObject m request = .ok (some root)) :
    m.object? root.name = some root := by
  unfold rootObject at h
  split at h
  · next name _ =>
    split at h
    · next o found =>
      cases h
      rwa [DataModel.name_of_object? found]
    · cases h
  · injection h with h
    cases ho : m.objects with
    | nil => simp [ho] at h
    | cons first rest =>
      obtain rfl : first = root := by simpa [ho] using h
      simp [DataModel.object?, ho]

theorem document_eq (h : rootObject m request = .ok (some root)) (inline : Bool) :
    document m { request with inline } =
      .ok (.object (documentFields m { request with inline } root)) := by
  have h' : rootObject m { request with inline } = .ok (some root) := h
  rw [document, h']
  rfl

end Documents

/-- Putting definitions where they are used preserves what a document says: with and without it the
root schema unfolds to the same tree, to every depth, and what stands before it is the same. -/
theorem documents_unfold_alike (m : DataModel) (request : Request) (root : Object)
    (h : rootObject m request = .ok (some root)) :
    ∃ plain inlined : Fields,
      document m { request with inline := false } = .ok (.object plain) ∧
      document m { request with inline := true } = .ok (.object inlined) ∧
      (∀ key ∈ ["$schema", "$id"], plain.lookup key = inlined.lookup key) ∧
      ∀ n, unfolded plain n (.object (rootFields plain)) =
        unfolded inlined n (.object (rootFields inlined)) := by
  have found := object?_rootObject h
  refine ⟨_, _, document_eq h false, document_eq h true, fun key hk => ?_, fun n => ?_⟩
  · rw [lookup_front hk, lookup_front hk]
  · exact Edition.roots_alike (d := editionOf m { request with inline := false } root found)
      (e := editionOf m { request with inline := true } root found) n

/-- A part of a machine: the machine that it belongs to, the parts that it consists of, and what it
is connected to. -/
def partObject : Object where
  name := "Part"
  attributes :=
    [{ name := "machine", dtypes := ["Machine"], docstring := "Where it belongs." },
     { name := "parts", dtypes := ["Part"], multiple := true },
     { name := "connected", dtypes := ["Part", "Machine", "string"] }]

/-- A machine with its first part. -/
def machineObject : Object where
  name := "Machine"
  attributes := [{ name := "first", dtypes := ["Part"], docstring := "The first one." }]

/-- Machines and parts, which refer to each other. -/
def machineModel : DataModel := { objects := [machineObject, partObject] }

theorem machineModel_unfolds_alike :
    rootObject machineModel { strict := true } = .ok (some machineObject) ∧
    ∃ plain inlined : Fields,
      document machineModel { strict := true, inline := false } = .ok (.object plain) ∧
      document machineModel { strict := true, inline := true } = .ok (.object inlined) ∧
      (∀ key ∈ ["$schema", "$id"], plain.lookup key = inlined.lookup key) ∧
      ∀ n, unfolded plain n (.object (rootFields plain)) =
        unfolded inlined n (.object (rootFields inlined)) :=
  ⟨rfl, documents_unfold_alike machineModel { strict := true } machineObject rfl⟩

end Target.JsonSchema
end DocModel

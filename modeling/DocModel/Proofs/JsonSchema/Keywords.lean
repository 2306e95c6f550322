import DocModel.Proofs.JsonSchema.Unfolding

/-!
# DocModel.Proofs.JsonSchema.Keywords

The fields that schemas are made of, as far as references go.

* what an attribute or an enumeration says besides its types holds no object (`leaf_annotations`,
  `leaf_memberFields`), default values included, and so it is literal (`LeafFields.literal`);
* an object is literal but for its properties (`objectFields_eq`), and none of these is taken for a
  reference, whatever its name (`resolved_propertiesFields`).
-/

namespace DocModel
namespace Target.JsonSchema

/-! ## Leaves -/

/-- A value that holds no object: a text, a truth value, a number, or a list of texts. -/
inductive Leaf : Json → Prop where
  | string (text : String) : Leaf (.string text)
  | bool (b : Bool) : Leaf (.bool b)
  | int (i : Int) : Leaf (.int i)
  | float (negative : Bool) (v : Number.Magnitude) : Leaf (.float negative v)
  | texts (texts : List String) : Leaf (.array (texts.map .string))

theorem Leaf.literal {value : Json} (h : Leaf value) : Literal value := by
  cases h with
  | string text => exact literal_string text
  | bool b => exact literal_bool b
  | int i => exact literal_int i
  | float negative v => exact literal_float negative v
  | texts texts => exact literal_texts texts

/-- Fields that are no references and whose values hold no object. -/
structure LeafFields (fields : Fields) : Prop where
  /-- None is a reference or a part of a document. -/
  unreserved : Unreserved fields
  /-- Their values hold no object. -/
  leaf : ∀ field ∈ fields, Leaf field.2

namespace LeafFields

variable {fields more : Fields}

theorem literal (h : LeafFields fields) : LiteralFields fields :=
  ⟨h.unreserved, fun field hf => (h.leaf field hf).literal⟩

theorem nil : LeafFields [] := ⟨unreserved_nil, fun _ hf => (nomatch hf)⟩

theorem cons {name : String} {value : Json} (hn : name ∉ reservedKeys) (hv : Leaf value)
    (h : LeafFields fields) : LeafFields ((name, value) :: fields) := by
  refine ⟨h.unreserved.cons hn, fun field hf => ?_⟩
  rcases List.mem_cons.1 hf with rfl | hf
  · exact hv
  · exact h.leaf field hf

theorem append (hf : LeafFields fields) (hm : LeafFields more) : LeafFields (fields ++ more) :=
  ⟨hf.unreserved.append hm.unreserved,
    fun field h => (List.mem_append.1 h).elim (hf.leaf field) (hm.leaf field)⟩

theorem putAll (hf : LeafFields fields) (hm : LeafFields more) :
    LeafFields (fields.putAll more) :=
  ⟨hf.unreserved.putAll hm.unreserved,
    fun field h => (mem_putAll h).elim (hf.leaf field) (hm.leaf field)⟩

end LeafFields

/-! ## Keywords -/

theorem leaf_describe (docstring : String) : LeafFields (describe docstring) := by
  unfold describe
  split
  · exact LeafFields.nil
  · exact LeafFields.nil.cons (by decide) (Leaf.string docstring)

theorem leaf_primitiveFields (p : Primitive) : LeafFields (primitiveFields p) := by
  cases p <;>
    repeat first
      | exact LeafFields.nil
      | refine LeafFields.cons (by decide) (Leaf.string _) ?_

theorem leaf_memberFields (e : Enumeration) : LeafFields (memberFields e) := by
  refine LeafFields.nil.putAll ?_
  refine LeafFields.append (LeafFields.append ?_ (leaf_describe _)) ?_
  · exact (LeafFields.nil.cons (by decide) (Leaf.string _)).cons (by decide)
      (Leaf.string _)
  · exact LeafFields.nil.cons (by decide) (Leaf.texts _)

theorem leaf_numberJson (negative : Bool) (v : Number.Magnitude) :
    Leaf (numberJson negative v) := by
  unfold numberJson
  split
  · split
    · exact Leaf.int _
    · exact Leaf.float _ _
  · exact Leaf.float _ _

theorem leaf_of_numberText? {text : String} {value : Json} (h : numberText? text = some value) :
    Leaf value := by
  unfold numberText? at h
  split at h
  · cases h
    exact leaf_numberJson _ _
  · cases h

theorem leaf_of_unsignedNumber? {negative : Bool} {text : List Char} {value : Json}
    (h : Json.unsignedNumber? negative text = some value) : Leaf value := by
  unfold Json.unsignedNumber? at h
  extract_lets whole rest part exponentText at h
  split at h
  · cases h
  · split at h
    · cases h
    · split at h
      · cases h
        exact Leaf.int _
      · -- the digits before the point, those after it, and what they round to
        split at h
        split at h
        split at h
        · cases h
        · obtain ⟨v, -, rfl⟩ := Option.map_eq_some_iff.1 h
          exact Leaf.float _ _

theorem leaf_of_scalar? {text : String} {value : Json} (h : Json.scalar? text = some value) :
    Leaf value := by
  unfold Json.scalar? at h
  dsimp only at h
  split at h
  · exact leaf_of_unsignedNumber? h
  · split at h
    · cases h
      exact Leaf.bool true
    · cases h
      exact Leaf.bool false
    · exact leaf_of_unsignedNumber? h

theorem leaf_getD {found : Option Json} (h : ∀ value, found = some value → Leaf value)
    (text : String) : Leaf (found.getD (.string text)) := by
  cases found with
  | none => exact Leaf.string text
  | some value => exact h value rfl

theorem leaf_typedLiteral (p : Primitive) (text : String) : Leaf (typedLiteral p text) := by
  refine leaf_getD (fun value h => ?_) text
  split at h
  · obtain ⟨i, -, rfl⟩ := Option.map_eq_some_iff.1 h
    exact Leaf.int i
  · exact leaf_of_numberText? h
  · exact leaf_of_numberText? h
  · split at h
    · cases h
      exact Leaf.bool true
    · cases h
      exact Leaf.bool false
    · cases h
  · cases h

theorem leaf_defaultJson (m : DataModel) (a : Attribute) (value : String) :
    Leaf (defaultJson m a value) := by
  unfold defaultJson
  split
  · exact leaf_typedLiteral _ _
  · exact Leaf.string _
  · exact leaf_getD (fun _ h => leaf_of_scalar? h) _

theorem leaf_optional {α : Type} {name : String} (hn : name ∉ reservedKeys) {f : α → Json}
    (hf : ∀ x, Leaf (f x)) (found : Option α) :
    LeafFields (found.toList.map fun x => (name, f x)) := by
  cases found with
  | none => exact LeafFields.nil
  | some x => exact LeafFields.nil.cons hn (hf x)

theorem leaf_annotations (m : DataModel) (a : Attribute) : LeafFields (annotations m a) := by
  refine LeafFields.append (LeafFields.append (LeafFields.append
    ((leaf_describe _).append ?_) ?_) ?_) ?_
  · exact leaf_optional (by decide) Leaf.string a.term
  · exact leaf_optional (by decide) (leaf_defaultJson m a) a.default?
  · have free : ∀ bound ∈ boundKeywords, bound.2 ∉ reservedKeys := by decide
    constructor
    · intro field hf
      obtain ⟨bound, hb, hn⟩ := List.mem_filterMap.1 hf
      obtain ⟨n, -, rfl⟩ := Option.map_eq_some_iff.1 hn
      exact free bound hb
    · intro field hf
      obtain ⟨bound, -, hn⟩ := List.mem_filterMap.1 hf
      obtain ⟨n, hb, rfl⟩ := Option.map_eq_some_iff.1 hn
      obtain ⟨text, -, ht⟩ := Option.bind_eq_some_iff.1 hb
      exact leaf_of_numberText? ht
  · exact leaf_optional (by decide) Leaf.string _

/-! ## Schemas as fields -/

theorem ascending_primitiveFields (p : Primitive) : Ascending (primitiveFields p) := by
  cases p <;> decide

theorem ascending_fields (m : DataModel) (strict : Bool) (schema : Schema) :
    Ascending (schema.fields m strict) := by
  cases schema with
  | anything => exact List.Pairwise.nil
  | primitive p => exact ascending_primitiveFields p
  | root => exact List.pairwise_singleton _ _
  | definition name => exact List.pairwise_singleton _ _
  | members e => exact ascending_putAll_nil _
  | object o properties => exact ascending_putAll_nil _

/-- The fields of an object before its properties. -/
def heading (o : Object) : Fields :=
  [("title", .string o.name), ("type", .string "object")] ++ describe o.docstring

/-- The fields of an object after its properties. -/
def ending (strict : Bool) (o : Object) : Fields :=
  (if (requiredNames strict o).isEmpty then []
    else [("required", .array ((requiredNames strict o).map .string))])
    ++ (if strict then [("additionalProperties", .bool false)] else [])

theorem leaf_heading (o : Object) : LeafFields (heading o) :=
  ((LeafFields.nil.cons (by decide) (.string _)).cons (by decide) (.string _)).append
    (leaf_describe _)

theorem leaf_ending (strict : Bool) (o : Object) : LeafFields (ending strict o) := by
  unfold ending
  refine LeafFields.append ?_ ?_
  · split
    · exact LeafFields.nil
    · exact LeafFields.nil.cons (by decide) (.texts _)
  · split
    · exact LeafFields.nil.cons (by decide) (.bool _)
    · exact LeafFields.nil

theorem objectFields_eq (strict : Bool) (o : Object) (properties : Fields) :
    objectFields strict o properties =
      Fields.putAll [] (heading o ++ ("properties", .object properties) :: ending strict o) := by
  simp [objectFields, heading, ending]

theorem unreserved_objectFields (strict : Bool) (o : Object) (properties : Fields) :
    Unreserved (objectFields strict o properties) := by
  rw [objectFields_eq]
  refine unreserved_nil.putAll ((leaf_heading o).unreserved.append ?_)
  exact (leaf_ending strict o).unreserved.cons (by decide)

theorem mapValues_objectFields {strict : Bool} {o : Object} {properties others : Fields}
    {document other : Fields} {n : Nat}
    (h : unfolded document n (.object properties) = unfolded other n (.object others)) :
    mapValues (unfolded document n) (objectFields strict o properties) =
      mapValues (unfolded other n) (objectFields strict o others) := by
  have split (d : Fields) (ps : Fields) : mapValues (unfolded d n)
      (heading o ++ ("properties", .object ps) :: ending strict o) =
        mapValues (unfolded d n) (heading o) ++
          ("properties", unfolded d n (.object ps)) :: mapValues (unfolded d n) (ending strict o) :=
    List.map_append
  rw [objectFields_eq, objectFields_eq, mapValues_putAll, mapValues_putAll, split, split, h,
    (leaf_heading o).literal.mapValues_eq document other,
    (leaf_ending strict o).literal.mapValues_eq document other]
  rfl

/-- A property with the fields of its schema. -/
def propertyEntry (m : DataModel) (strict : Bool) (property : Attribute × List Schema) :
    String × Json :=
  (property.1.name, .object (propertyFields m property.1 (schemaList m strict property.2)))

theorem propertiesFields_eq (m : DataModel) (strict : Bool) (before : Fields)
    (properties : List (Attribute × List Schema)) :
    propertiesFields m strict before properties =
      before.putAll (properties.map (propertyEntry m strict)) := by
  induction properties generalizing before with
  | nil => rfl
  | cons property rest ih =>
    obtain ⟨a, schemas⟩ := property
    rw [propertiesFields, ih]
    rfl

/-- An attribute may have any name; its schema is no reference. -/
theorem resolved_propertiesFields (m : DataModel) (strict : Bool) (document : Fields)
    (properties : List (Attribute × List Schema)) :
    resolved document (propertiesFields m strict [] properties) =
      propertiesFields m strict [] properties := by
  refine resolved_of_lookup fun reference h => ?_
  rw [propertiesFields_eq] at h
  obtain ⟨before, after, h, -⟩ := List.lookup_eq_some_iff.1 h
  have mem : ("$ref", Json.string reference) ∈
      Fields.putAll [] (properties.map (propertyEntry m strict)) := by
    rw [h]
    simp
  rcases mem_putAll mem with mem | mem
  · cases mem
  · obtain ⟨property, -, hp⟩ := List.mem_map.1 mem
    have := congrArg Prod.snd hp
    cases this

end Target.JsonSchema
end DocModel

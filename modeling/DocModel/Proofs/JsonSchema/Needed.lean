import DocModel.Proofs.JsonSchema.References
import Mathlib.Data.List.Perm.Subperm
import Mathlib.Logic.Relation

/-!
# DocModel.Proofs.JsonSchema.Needed

The definitions of a document are those that it needs, and no others.

* `DataModel.Reaches` follows the types of attributes from name to name;
* where definitions are only referred to, a document has exactly those that its root object reaches
  (`built_apart_iff`);
* where they are put in place, a reference stays only where an object is inside itself. `Within` is
  what is known on the way into objects: what is on the path leads to where the path ends, so the
  reference that is left closes a cycle (`cycle_of_reference`).
-/

namespace DocModel

namespace DataModel

variable {m : DataModel} {name dtype : String}

/-- An attribute of an object of a name has a type. -/
def Mentions (m : DataModel) (name dtype : String) : Prop :=
  ∃ o ∈ m.objects, o.name = name ∧ ∃ a ∈ o.attributes, dtype ∈ a.dtypes

/-- A chain of one or more types, each mentioned by the one before and among some names. -/
def Reaches (m : DataModel) (among : List String) : String → String → Prop :=
  Relation.TransGen fun name dtype => m.Mentions name dtype ∧ dtype ∈ among

def objectNames (m : DataModel) : List String := m.objects.map (·.name)

/-- The names of the objects besides one. -/
def objectsWithout (m : DataModel) (root : String) : List String := m.objectNames.filter (· ≠ root)

theorem mem_objectsWithout {root : String} :
    name ∈ m.objectsWithout root ↔ name ∈ m.objectNames ∧ name ≠ root := by
  simp [objectsWithout]

theorem mem_objectNames_iff : name ∈ m.objectNames ↔ ∃ o, m.object? name = some o := by
  rw [objectNames, List.mem_map, ← Option.isSome_iff_exists, object?, List.find?_isSome]
  simp

theorem mem_typeNames_iff : name ∈ m.typeNames ↔
    (∃ o, m.object? name = some o) ∨ ∃ e, m.enumeration? name = some e := by
  have enum_iff : name ∈ m.enums.map (·.name) ↔ ∃ e, m.enumeration? name = some e := by
    rw [List.mem_map, ← Option.isSome_iff_exists, enumeration?, List.find?_isSome]
    simp
  rw [typeNames, List.mem_append, ← enum_iff, ← mem_objectNames_iff, objectNames]

theorem object?_of_mem (distinct : m.objectNames.Nodup) {o : Object} (ho : o ∈ m.objects) :
    m.object? o.name = some o := by
  obtain ⟨first, found⟩ := mem_objectNames_iff.1 (List.mem_map.2 ⟨o, ho, rfl⟩)
  rw [found, List.inj_on_of_nodup_map distinct (mem_of_object? found) ho (name_of_object? found)]

theorem mentions_iff (distinct : m.objectNames.Nodup) {o : Object} (ho : o ∈ m.objects) :
    m.Mentions o.name dtype ↔ ∃ a ∈ o.attributes, dtype ∈ a.dtypes := by
  constructor
  · rintro ⟨other, mem, same, mentioned⟩
    rwa [← List.inj_on_of_nodup_map distinct mem ho same]
  · exact fun mentioned => ⟨o, ho, rfl, mentioned⟩

end DataModel

namespace Target.JsonSchema

open DataModel (mem_objectNames_iff mem_typeNames_iff mem_objectsWithout)

/-- A model with known types and distinct objects, and its root object. -/
structure Rooted (b : SchemaScope) (root : Object) : Prop where
  referable : Referable b.model
  distinct : b.model.objectNames.Nodup
  found : b.model.object? root.name = some root
  isRoot : b.root = some root.name

section

variable {b : SchemaScope} {root : Object} {name dtype : String} {fuel : Nat} {path : List String}

namespace Rooted

theorem root_mem (h : Rooted b root) : root ∈ b.model.objects := DataModel.mem_of_object? h.found

theorem known (h : Rooted b root) {o : Object} {a : Attribute} (ho : o ∈ b.model.objects)
    (ha : a ∈ o.attributes) (hd : dtype ∈ a.dtypes) (unknown : String) :
    b.model.classify dtype ≠ .unknown unknown :=
  DataModel.classify_ne_unknown (h.referable.known dtype (mem_typeUses ho ha hd)) unknown

end Rooted

/-! ## References to definitions that stand apart -/

/-- A known type that is not put in place is referred to, unless it is primitive or the root. -/
theorem mem_references_apart (h : Rooted b root) (apart : b.inline = false)
    (known : ∀ unknown, b.model.classify dtype ≠ .unknown unknown) :
    name ∈ (b.typeSchema fuel path dtype).references ↔
      name = dtype ∧ dtype ∈ b.model.typeNames ∧ dtype ≠ root.name := by
  rw [SchemaScope.typeSchema.eq_def, mem_typeNames_iff, h.isRoot, apart]
  cases kind : b.model.classify dtype with
  | unknown unknown => exact absurd kind (known unknown)
  | primitive p =>
    have undefined : ¬ ((∃ o, b.model.object? dtype = some o) ∨
        ∃ e, b.model.enumeration? dtype = some e) := by
      simp [DataModel.classify_eq_primitive kind]
    simp [kind, Schema.references, undefined]
  | enumeration other =>
    obtain ⟨rfl, noObject, e, found⟩ := DataModel.classify_eq_enumeration kind
    have notRoot : other ≠ root.name := by
      rintro rfl
      rw [h.found] at noObject
      cases noObject
    simp [kind, Schema.references, found, notRoot]
  | object other =>
    obtain ⟨rfl, o, found⟩ := DataModel.classify_eq_object kind
    by_cases isRoot : other = root.name
    · simp [kind, Schema.references, ← isRoot]
    · simp [kind, Schema.references, found, isRoot, Ne.symm isRoot]

/-- An object refers to the definitions that it mentions, besides the root. -/
theorem mem_references_object_apart (h : Rooted b root) (apart : b.inline = false) {o : Object}
    (ho : o ∈ b.model.objects) : name ∈ (b.objectSchema o).references ↔
      (b.model.Mentions o.name name ∧ name ∈ b.model.typeNames) ∧ name ≠ root.name := by
  have references := @mem_references_object b name o b.depth [o.name]
  rw [DataModel.mentions_iff h.distinct ho]
  refine references.trans ⟨?_, ?_⟩
  · rintro ⟨a, ha, dtype, hd, hn⟩
    obtain ⟨rfl, defined, other⟩ := (mem_references_apart h apart (h.known ho ha hd)).1 hn
    exact ⟨⟨⟨a, ha, hd⟩, defined⟩, other⟩
  · rintro ⟨⟨⟨a, ha, hd⟩, defined⟩, other⟩
    exact ⟨a, ha, name, hd,
      (mem_references_apart h apart (h.known ho ha hd)).2 ⟨rfl, defined, other⟩⟩

/-- So does the definition of a name; one that is no object refers to nothing. -/
theorem mem_references_definition_apart (h : Rooted b root) (apart : b.inline = false)
    {needed : String} : name ∈ (b.definitionSchema needed).references ↔
      (b.model.Mentions needed name ∧ name ∈ b.model.typeNames) ∧ name ≠ root.name := by
  cases found : b.model.object? needed with
  | some o =>
    obtain rfl := DataModel.name_of_object? found
    have schema : b.definitionSchema o.name = b.objectSchema o := by
      rw [SchemaScope.definitionSchema, found]
    rw [schema, mem_references_object_apart h apart (DataModel.mem_of_object? found)]
  | none =>
    have silent : (b.definitionSchema needed).references = [] := by
      rw [SchemaScope.definitionSchema, found]
      cases b.model.enumeration? needed <;> rfl
    rw [silent]
    refine iff_of_false List.not_mem_nil ?_
    rintro ⟨⟨⟨o, ho, rfl, -⟩, -⟩, -⟩
    rw [DataModel.object?_of_mem h.distinct ho] at found
    cases found

/-- Every name that the root object reaches is the root again or is built. -/
theorem built_of_reaches (h : Rooted b root) (apart : b.inline = false)
    (reached : b.model.Reaches b.model.typeNames root.name name) :
    name = root.name ∨ Built (b.definitions (b.objectSchema root).references) name := by
  have rootBuilt : ∀ dtype,
      b.model.Mentions root.name dtype ∧ dtype ∈ b.model.typeNames → dtype ≠ root.name →
      Built (b.definitions (b.objectSchema root).references) dtype := fun dtype mentioned other =>
    (definitions_complete fun name hn => references_object h.root_mem hn).1 dtype
      ((mem_references_object_apart h apart h.root_mem).2 ⟨mentioned, other⟩)
  induction reached with
  | @single name mentioned =>
    by_cases again : name = root.name
    · exact .inl again
    · exact .inr (rootBuilt name mentioned again)
  | @tail before name _ mentioned ih =>
    by_cases again : name = root.name
    · exact .inl again
    rcases ih with start | ⟨entry, he, rfl⟩
    · exact .inr (rootBuilt name (start ▸ mentioned) again)
    · obtain ⟨-, means, complete⟩ := definitions_complete (b := b)
        fun name hn => references_object h.root_mem hn
      refine .inr (complete entry he name ?_)
      rw [means entry he]
      exact (mem_references_definition_apart h apart).2 ⟨mentioned, again⟩

/-- Where definitions stand apart, those are built that the root object reaches. -/
theorem built_apart_iff (h : Rooted b root) (apart : b.inline = false) :
    Built (b.definitions (b.objectSchema root).references) name ↔
      b.model.Reaches b.model.typeNames root.name name ∧ name ≠ root.name := by
  constructor
  · rintro ⟨entry, he, rfl⟩
    refine (forall_definitions
      (p := fun name => b.model.Reaches b.model.typeNames root.name name ∧ name ≠ root.name)
      (fun name hn => ?_) (fun needed hp name hn => ?_) entry he).1
    · obtain ⟨mentioned, other⟩ := (mem_references_object_apart h apart h.root_mem).1 hn
      exact ⟨.single mentioned, other⟩
    · obtain ⟨mentioned, other⟩ := (mem_references_definition_apart h apart).1 hn
      exact ⟨hp.1.tail mentioned, other⟩
  · rintro ⟨reached, other⟩
    exact (built_of_reaches h apart reached).resolve_left other

/-! ## References that are left where definitions are put in place -/

/-- What is known of the path of objects that the object of a name is inside of, itself included,
and of the fuel that is left. -/
structure Within (b : SchemaScope) (root : Object) (fuel : Nat) (path : List String)
    (start current : String) : Prop where
  distinct : path.Nodup
  objects : path ⊆ b.model.objectNames
  /-- With every object on the path there is no fuel left. -/
  room : path.length + fuel = b.model.objectNames.length + 1
  reached : Relation.ReflTransGen
    (fun name dtype => b.model.Mentions name dtype ∧ dtype ∈ b.model.objectNames) start current
  /-- Past the root object nothing on the way is the root object. -/
  leads : ∀ name ∈ path, name ≠ root.name → Relation.ReflTransGen
    (fun name dtype => b.model.Mentions name dtype ∧ dtype ∈ b.model.objectsWithout root.name)
    name current

theorem within_object {o : Object} (ho : o ∈ b.model.objects) :
    Within b root b.depth [o.name] o.name o.name where
  distinct := List.nodup_singleton _
  objects := by simpa [DataModel.objectNames] using ⟨o, ho, rfl⟩
  room := by simp [SchemaScope.depth, DataModel.objectNames, Nat.add_comm]
  reached := .refl
  leads name hn _ := by rw [List.mem_singleton.1 hn]

namespace Within

variable {start current : String}

theorem step (h : Within b root (fuel + 1) path start current)
    (mentioned : b.model.Mentions current dtype) (object : dtype ∈ b.model.objectNames)
    (other : dtype ≠ root.name) (new : dtype ∉ path) :
    Within b root fuel (dtype :: path) start dtype where
  distinct := List.nodup_cons.2 ⟨new, h.distinct⟩
  objects := List.cons_subset.2 ⟨object, h.objects⟩
  room := by
    rw [List.length_cons, ← h.room]
    omega
  reached := h.reached.tail ⟨mentioned, object⟩
  leads name hn notRoot := by
    rcases List.mem_cons.1 hn with rfl | hn
    · exact .refl
    · exact (h.leads name hn notRoot).tail ⟨mentioned, mem_objectsWithout.2 ⟨object, other⟩⟩

/-- There is fuel for one more object while some object is not on the path. -/
theorem fuel_ne_zero (h : Within b root fuel path start current) : fuel ≠ 0 := by
  rintro rfl
  have short := (h.distinct.subperm h.objects).length_le
  have long := h.room
  omega

theorem cycle (h : Within b root fuel path start current)
    (mentioned : b.model.Mentions current dtype) (again : dtype ∈ path)
    (other : dtype ≠ root.name) :
    b.model.Reaches (b.model.objectsWithout root.name) dtype dtype :=
  .tail' (h.leads dtype again other)
    ⟨mentioned, mem_objectsWithout.2 ⟨h.objects again, other⟩⟩

end Within

/-- An object besides the root that is inside itself, with no root object in between, and that the
object of a name reaches. -/
structure Recurs (m : DataModel) (root start name : String) : Prop where
  other : name ≠ root
  cycle : m.Reaches (m.objectsWithout root) name name
  reached : m.Reaches m.objectNames start name

theorem cycle_of_reference (h : Rooted b root) (inline : b.inline = true) {o : Object}
    {start : String} (ho : o ∈ b.model.objects) {a : Attribute} (ha : a ∈ o.attributes)
    (hd : dtype ∈ a.dtypes) (within : Within b root fuel path start o.name)
    (hn : name ∈ (b.typeSchema fuel path dtype).references) :
    Recurs b.model root.name start name := by
  have mentioned : b.model.Mentions o.name dtype := ⟨o, ho, rfl, a, ha, hd⟩
  induction fuel generalizing path dtype o a with
  | zero => exact absurd rfl within.fuel_ne_zero
  | succ fuel ih =>
    rw [SchemaScope.typeSchema.eq_def, h.isRoot, inline] at hn
    cases kind : b.model.classify dtype with
    | unknown unknown => exact absurd kind (h.known ho ha hd unknown)
    | primitive p => simp [kind, Schema.references] at hn
    | enumeration other =>
      obtain ⟨rfl, -, e, found⟩ := DataModel.classify_eq_enumeration kind
      simp [kind, found, Schema.references] at hn
    | object other =>
      obtain ⟨rfl, inner, found⟩ := DataModel.classify_eq_object kind
      have object := mem_objectNames_iff.2 ⟨inner, found⟩
      by_cases isRoot : other = root.name
      · simp [kind, ← isRoot, Schema.references] at hn
      by_cases again : other ∈ path
      · have left : name = other := by
          simpa [kind, Ne.symm isRoot, again, Schema.references] using hn
        subst left
        exact ⟨isRoot, within.cycle mentioned again isRoot,
          .tail' within.reached ⟨mentioned, object⟩⟩
      · have further := within.step mentioned object isRoot again
        obtain rfl := DataModel.name_of_object? found
        have inside : name ∈ (Schema.object inner
            (attributeSchemas b fuel (inner.name :: path) inner)).references := by
          simpa [kind, Ne.symm isRoot, again, found, attributeSchemas] using hn
        obtain ⟨a', ha', dtype', hd', hn'⟩ := mem_references_object.1 inside
        have innerMem := DataModel.mem_of_object? found
        exact ih innerMem ha' hd' further hn' ⟨inner, innerMem, rfl, a', ha', hd'⟩

theorem recurs_of_object (h : Rooted b root) (inline : b.inline = true) {o : Object}
    (ho : o ∈ b.model.objects) (hn : name ∈ (b.objectSchema o).references) :
    Recurs b.model root.name o.name name := by
  obtain ⟨a, ha, dtype, hd, hn⟩ := (@mem_references_object b name o b.depth [o.name]).1 hn
  exact cycle_of_reference h inline ho ha hd (within_object ho) hn

/-- Where definitions are put in place, only what recurs is built. -/
theorem recurs_of_built (h : Rooted b root) (inline : b.inline = true)
    (built : Built (b.definitions (b.objectSchema root).references) name) :
    Recurs b.model root.name root.name name := by
  obtain ⟨entry, he, rfl⟩ := built
  refine (forall_definitions (p := Recurs b.model root.name root.name)
    (fun name hn => recurs_of_object h inline h.root_mem hn) (fun needed hp name hn => ?_)
    entry he).1
  unfold SchemaScope.definitionSchema at hn
  split at hn
  · next o found =>
    obtain rfl := DataModel.name_of_object? found
    have recurs := recurs_of_object h inline (DataModel.mem_of_object? found) hn
    exact ⟨recurs.other, recurs.cycle, hp.reached.trans recurs.reached⟩
  · split at hn <;> cases hn

end

/-! ## Documents -/

def definitionNames (document : Fields) : List String :=
  match document.lookup "$defs" with
  | some (.object definitions) => definitions.map (·.1)
  | _ => []

section

variable {m : DataModel} {request : Request} {root : Object} {name : String}

theorem lookup_definitions : (documentFields m request root).lookup "$defs" =
    if (definitionEntriesOf m request root).isEmpty then none
    else some (.object (Fields.putAll [] (definitionEntriesOf m request root))) := by
  have noBody : (body m request root).lookup "$defs" = none := unreserved_body.lookup (by decide)
  have noFront : (front m).reverse.lookup "$defs" = none := by
    refine lookup_reverse_eq_none fun field hf same => ?_
    have key := front_keys field hf
    rw [← same] at key
    exact absurd key (by decide)
  rw [lookup_documentFields, noBody, noFront, Option.or_none, Option.or_none, back]
  split <;> rfl

theorem mem_definitionNames :
    name ∈ definitionNames (documentFields m request root) ↔
      Built (definitionsOf m request root) name := by
  have built_iff : Built (definitionsOf m request root) name ↔
      ∃ field ∈ definitionEntriesOf m request root, field.1 = name := by
    simp [Built, definitionEntriesOf]
  rw [built_iff, definitionNames, lookup_definitions]
  cases empty : (definitionEntriesOf m request root).isEmpty with
  | true => simp [List.isEmpty_iff.1 empty]
  | false =>
    simp only [Bool.false_eq_true, if_false, List.mem_map]
    constructor
    · rintro ⟨field, hf, rfl⟩
      exact ⟨field, (mem_putAll hf).resolve_left List.not_mem_nil, rfl⟩
    · rintro ⟨field, hf, rfl⟩
      have found : ((Fields.putAll [] (definitionEntriesOf m request root)).lookup
          field.1).isSome = true := by
        rw [lookup_putAll, List.lookup_nil, Option.or_none, List.lookup_isSome_iff]
        exact ⟨field, List.mem_reverse.2 hf, by simp⟩
      obtain ⟨entry, he, same⟩ := List.lookup_isSome_iff.1 found
      exact ⟨entry, he, (by simpa using same : field.1 = entry.1).symm⟩

theorem lookup_definitions_eq_none
    (none : ∀ name, name ∉ definitionNames (documentFields m request root)) :
    (documentFields m request root).lookup "$defs" = .none := by
  rw [lookup_definitions, if_pos]
  refine List.isEmpty_iff.2 (List.eq_nil_iff_forall_not_mem.2 fun field hf => none field.1 ?_)
  obtain ⟨entry, he, rfl⟩ := List.mem_map.1 hf
  exact mem_definitionNames.2 ⟨entry, he, rfl⟩

end

/-- A document defines exactly what is needed. Where definitions stand apart, these are the objects
and enumerations that the root object reaches. Where they are put in place, only objects are left
that are inside themselves without the root object in between; if the root object reaches none of
these there are no definitions at all. -/
theorem definitions_needed (reading : Dialect.Reading)
    (valid : (Validation.reportOf reading).isValid = true) (request : Request)
    (objects : reading.model.objects ≠ [])
    (rooted : ∀ name, request.root = some name → ∃ o ∈ reading.model.objects, o.name = name) :
    ∃ (root : Object) (document : Fields),
      rootObject reading.model request = .ok (some root) ∧
      renderRequest reading.model request = .ok (Json.object document).pretty ∧
      (request.inline = false → ∀ name, name ∈ definitionNames document ↔
        reading.model.Reaches reading.model.typeNames root.name name ∧ name ≠ root.name) ∧
      (request.inline = true →
        (∀ name ∈ definitionNames document,
          name ∈ reading.model.objectNames ∧ name ≠ root.name ∧
          reading.model.Reaches (reading.model.objectsWithout root.name) name name) ∧
        ((∀ name, reading.model.Reaches reading.model.objectNames root.name name →
            ¬ reading.model.Reaches (reading.model.objectsWithout root.name) name name) →
          document.lookup "$defs" = none)) := by
  have wellFormed := Validation.wellFormed_of_isValid valid
  have referable := referable_of_wellFormed wellFormed
  have distinct : reading.model.objectNames.Nodup := wellFormed.distinct.of_append_left
  generalize reading.model = m at *
  obtain ⟨root, hr⟩ : ∃ root, rootObject m request = .ok (some root) := by
    unfold rootObject
    cases named : request.root with
    | none =>
      obtain ⟨first, rest, same⟩ := List.exists_cons_of_ne_nil objects
      exact ⟨first, by simp [same]⟩
    | some name =>
      obtain ⟨o, ho, rfl⟩ := rooted name named
      exact ⟨o, by simp [DataModel.object?_of_mem distinct ho]⟩
  have found := object?_rootObject hr
  have scope : Rooted (scopeOf m root request.inline) root := ⟨referable, distinct, found, rfl⟩
  have text : renderRequest m request = .ok (documentOf m request (some root)).pretty := by
    rw [renderRequest, document, hr]
    rfl
  refine ⟨root, documentFields m request root, hr, text, fun apart name => ?apart,
    fun inline => ?inline⟩
  case apart => exact mem_definitionNames.trans (built_apart_iff scope apart)
  case inline =>
    have recurs : ∀ name ∈ definitionNames (documentFields m request root),
        Recurs m root.name root.name name := fun name hn =>
      recurs_of_built scope inline (mem_definitionNames.1 hn)
    refine ⟨fun name hn => ?_, fun none => lookup_definitions_eq_none fun name hn => ?_⟩
    · have object : name ∈ m.objectNames := by
        obtain ⟨before, -, last⟩ := Relation.TransGen.tail'_iff.1 (recurs name hn).reached
        exact last.2
      exact ⟨object, (recurs name hn).other, (recurs name hn).cycle⟩
    · exact none name (recurs name hn).reached (recurs name hn).cycle

/-- The shelf with its books, where a book is inside itself as the sequel of another. -/
theorem shelfModel_definitions_needed :
    ((Validation.reportOf { model := shelfModel }).isValid = true ∧ shelfModel.objects ≠ [] ∧
      ∀ name, some "Shelf" = some name → ∃ o ∈ shelfModel.objects, o.name = name) ∧
    ∃ (root : Object) (document : Fields),
      rootObject shelfModel { root := some "Shelf", inline := true } = .ok (some root) ∧
      renderRequest shelfModel { root := some "Shelf", inline := true } =
        .ok (Json.object document).pretty ∧
      (true = false → ∀ name, name ∈ definitionNames document ↔
        shelfModel.Reaches shelfModel.typeNames root.name name ∧ name ≠ root.name) ∧
      (true = true →
        (∀ name ∈ definitionNames document,
          name ∈ shelfModel.objectNames ∧ name ≠ root.name ∧
          shelfModel.Reaches (shelfModel.objectsWithout root.name) name name) ∧
        ((∀ name, shelfModel.Reaches shelfModel.objectNames root.name name →
            ¬ shelfModel.Reaches (shelfModel.objectsWithout root.name) name name) →
          document.lookup "$defs" = none)) := by
  have rooted : ∀ name, some "Shelf" = some name → ∃ o ∈ shelfModel.objects, o.name = name := by
    intro name hn
    cases hn
    exact ⟨_, List.mem_cons_self, rfl⟩
  have objects : shelfModel.objects ≠ [] := by simp [shelfModel]
  exact ⟨⟨isValid_shelfModel, objects, rooted⟩,
    definitions_needed { model := shelfModel } isValid_shelfModel
      { root := some "Shelf", inline := true } objects rooted⟩

end Target.JsonSchema
end DocModel

import DocModel.Proofs.JsonSchema.Needed
import Mathlib.Data.Finset.Card

/-!
# DocModel.Proofs.JsonSchema.Termination

Building schemas ends for every model, whether it is valid or not: names may be defined twice, types
may be unknown, and objects may be inside each other in any way.

* `BuildsType` and `BuildsObject` build without fuel. A derivation is a run that ends, its number is
  how deep objects are inside each other, and there is one result (`BuildsObject.unique`);
* `Begins` is the call of an object by another. No name is twice on a path of calls
  (`Simple.of_calls`), so that it is no longer than the number of names of objects;
* `Rounds` collects definitions without a bound on the rounds. Each round builds a name that was not
  built before, so that there are at most as many rounds as names that can be needed
  (`rounds_definitionsFrom`).

The fuel and the rounds of `SchemaScope` are therefore never used up (`building_ends`).
-/

namespace DocModel
namespace Target.JsonSchema

/-! ## Building without fuel -/

/-- An object that is put where its name is used, inside the objects of a path. -/
structure PutInPlace (b : SchemaScope) (path : List String) (name : String) (o : Object) :
    Prop where
  inline : b.inline = true
  found : b.model.object? name = some o
  notRoot : b.root ≠ some name
  new : name ∉ path

/-- The schema of a type for which no object is put in place. -/
inductive Settles (b : SchemaScope) (path : List String) (dtype : String) : Schema → Prop where
  | primitive (p : Primitive) (kind : b.model.classify dtype = .primitive p) :
    Settles b path dtype (.primitive p)
  | unknown (kind : b.model.classify dtype = .unknown dtype) :
    Settles b path dtype (.definition dtype)
  | members (e : Enumeration) (kind : b.model.classify dtype = .enumeration dtype)
    (inline : b.inline = true) (found : b.model.enumeration? dtype = some e) :
    Settles b path dtype (.members e)
  | enumeration (kind : b.model.classify dtype = .enumeration dtype) (apart : b.inline = false) :
    Settles b path dtype (.definition dtype)
  | root (o : Object) (found : b.model.object? dtype = some o) (isRoot : b.root = some dtype) :
    Settles b path dtype .root
  /-- Another object that stands apart, or that is on the path. -/
  | object (o : Object) (found : b.model.object? dtype = some o) (notRoot : b.root ≠ some dtype)
    (left : b.inline = false ∨ dtype ∈ path) : Settles b path dtype (.definition dtype)

mutual

/-- The schema of a type inside the objects of a path is built, with at most a number of further
objects inside each other. -/
inductive BuildsType (b : SchemaScope) : Nat → List String → String → Schema → Prop where
  | settled {depth : Nat} {path : List String} {dtype : String} {schema : Schema}
    (settles : Settles b path dtype schema) : BuildsType b depth path dtype schema
  | object {depth : Nat} {path : List String} {dtype : String} {schema : Schema} {o : Object}
    (put : PutInPlace b path dtype o) (built : BuildsObject b depth path o schema) :
    BuildsType b depth path dtype schema

/-- The schema of an object inside the objects of a path is built, with at most a number of objects
inside each other, itself included. -/
inductive BuildsObject (b : SchemaScope) : Nat → List String → Object → Schema → Prop where
  | intro {depth : Nat} {path : List String} {o : Object} (schemas : String → Schema)
    (types : ∀ a ∈ o.attributes, ∀ dtype ∈ a.dtypes,
      BuildsType b depth (o.name :: path) dtype (schemas dtype)) :
    BuildsObject b (depth + 1) path o
      (.object o (o.attributes.map fun a => (a, a.dtypes.map schemas)))

end

/-- The definition of a name is built, with at most a number of objects inside each other. -/
inductive BuildsDefinition (b : SchemaScope) (depth : Nat) (name : String) : Schema → Prop where
  | object {schema : Schema} (o : Object) (found : b.model.object? name = some o)
    (built : BuildsObject b depth [] o schema) : BuildsDefinition b depth name schema
  | members (e : Enumeration) (noObject : b.model.object? name = none)
    (found : b.model.enumeration? name = some e) : BuildsDefinition b depth name (.members e)
  | anything (noObject : b.model.object? name = none)
    (noEnumeration : b.model.enumeration? name = none) : BuildsDefinition b depth name .anything

/-- An object that is being built, and the path of those that it is inside of. -/
structure Call where
  object : Object
  outer : List String

/-- The names of the objects that are being built, the innermost first. -/
def Call.path (call : Call) : List String := call.object.name :: call.outer

/-- While an object is built, another is begun for a type of one of its attributes. -/
inductive Begins (b : SchemaScope) (call : Call) : Call → Prop where
  | intro {a : Attribute} (ha : a ∈ call.object.attributes) {dtype : String} (hd : dtype ∈ a.dtypes)
    {o : Object} (put : PutInPlace b call.path dtype o) : Begins b call ⟨o, call.path⟩

section

variable {b : SchemaScope} {path : List String} {dtype : String} {schema : Schema} {o : Object}
  {depth fuel : Nat}

theorem settles_or_put (b : SchemaScope) (path : List String) (dtype : String) :
    (∃ schema, Settles b path dtype schema) ∨ ∃ o, PutInPlace b path dtype o := by
  cases kind : b.model.classify dtype with
  | primitive p => exact .inl ⟨_, .primitive p kind⟩
  | unknown name =>
    obtain ⟨rfl, -, -⟩ := DataModel.classify_eq_unknown kind
    exact .inl ⟨_, .unknown kind⟩
  | enumeration name =>
    obtain ⟨rfl, -, e, found⟩ := DataModel.classify_eq_enumeration kind
    cases inline : b.inline with
    | true => exact .inl ⟨_, .members e kind inline found⟩
    | false => exact .inl ⟨_, .enumeration kind inline⟩
  | object name =>
    obtain ⟨rfl, o, found⟩ := DataModel.classify_eq_object kind
    by_cases isRoot : b.root = some name
    · exact .inl ⟨_, .root o found isRoot⟩
    by_cases new : name ∈ path
    · exact .inl ⟨_, .object o found isRoot (.inr new)⟩
    cases inline : b.inline with
    | true => exact .inr ⟨o, inline, found, isRoot, new⟩
    | false => exact .inl ⟨_, .object o found isRoot (.inl inline)⟩

theorem Settles.typeSchema_eq (h : Settles b path dtype schema) :
    b.typeSchema fuel path dtype = schema := by
  rw [SchemaScope.typeSchema.eq_def]
  cases h with
  | primitive p kind => simp [kind]
  | unknown kind => simp [kind]
  | members e kind inline found => simp [kind, inline, found]
  | enumeration kind apart => simp [kind, apart]
  | root o found isRoot => simp [DataModel.classify_of_object? found, isRoot]
  | object o found notRoot left =>
    rcases left with apart | again
    · simp [DataModel.classify_of_object? found, notRoot, apart]
    · simp [DataModel.classify_of_object? found, notRoot, again]

theorem PutInPlace.typeSchema_eq (h : PutInPlace b path dtype o) :
    b.typeSchema (fuel + 1) path dtype =
      .object o (attributeSchemas b fuel (o.name :: path) o) := by
  rw [SchemaScope.typeSchema.eq_def]
  simp [DataModel.classify_of_object? h.found, h.notRoot, h.inline, h.new, h.found,
    attributeSchemas]

theorem object_attributeSchemas {schemas : String → Schema}
    (h : ∀ a ∈ o.attributes, ∀ dtype ∈ a.dtypes, b.typeSchema fuel path dtype = schemas dtype) :
    Schema.object o (attributeSchemas b fuel path o) =
      .object o (o.attributes.map fun a => (a, a.dtypes.map schemas)) :=
  congrArg (Schema.object o) (List.map_congr_left fun a ha =>
    congrArg (a, ·) (List.map_congr_left (h a ha)))

theorem BuildsType.typeSchema_eq (h : BuildsType b depth path dtype schema)
    (enough : depth ≤ fuel) : b.typeSchema fuel path dtype = schema := by
  induction depth generalizing fuel path dtype schema with
  | zero =>
    cases h with
    | settled settles => exact settles.typeSchema_eq
    | object put built => cases built
  | succ depth ih =>
    cases h with
    | settled settles => exact settles.typeSchema_eq
    | object put built =>
      obtain ⟨schemas, types⟩ := built
      cases fuel with
      | zero => exact absurd enough (Nat.not_succ_le_zero depth)
      | succ fuel =>
        rw [put.typeSchema_eq]
        exact object_attributeSchemas fun a ha dtype hd =>
          ih (types a ha dtype hd) (Nat.le_of_succ_le_succ enough)

theorem BuildsObject.object_eq (h : BuildsObject b (depth + 1) path o schema)
    (enough : depth ≤ fuel) : .object o (attributeSchemas b fuel (o.name :: path) o) = schema := by
  obtain ⟨schemas, types⟩ := h
  exact object_attributeSchemas fun a ha dtype hd => (types a ha dtype hd).typeSchema_eq enough

/-! ## Paths -/

/-- A path of objects none of which is on it twice. -/
structure Simple (m : DataModel) (path : List String) : Prop where
  distinct : path.Nodup
  objects : path ⊆ m.objectNames

namespace Simple

variable {m : DataModel} {call next : Call}

theorem length_le (h : Simple m path) : path.length ≤ m.objectNames.toFinset.card := by
  rw [← List.toFinset_card_of_nodup h.distinct]
  refine Finset.card_le_card fun name hn => ?_
  exact List.mem_toFinset.2 (h.objects (List.mem_toFinset.1 hn))

theorem single (ho : o ∈ m.objects) : Simple m [o.name] where
  distinct := List.nodup_singleton _
  objects := List.cons_subset.2 ⟨List.mem_map.2 ⟨o, ho, rfl⟩, List.nil_subset _⟩

theorem put (h : Simple b.model path) (put : PutInPlace b path dtype o) :
    Simple b.model (o.name :: path) := by
  obtain rfl := DataModel.name_of_object? put.found
  exact ⟨List.nodup_cons.2 ⟨put.new, h.distinct⟩,
    List.cons_subset.2 ⟨DataModel.mem_objectNames_iff.2 ⟨o, put.found⟩, h.objects⟩⟩

theorem begins (h : Simple b.model call.path) (begins : Begins b call next) :
    Simple b.model next.path := by
  obtain ⟨-, -, put⟩ := begins
  exact h.put put

theorem of_calls (ho : o ∈ b.model.objects)
    (calls : Relation.ReflTransGen (Begins b) ⟨o, []⟩ call) : Simple b.model call.path := by
  induction calls with
  | refl => exact .single ho
  | tail _ begins ih => exact ih.begins begins

end Simple

/-- There is enough fuel if there is one for each object that is not on the path. -/
theorem builds_typeSchema (h : Simple b.model path)
    (room : b.model.objectNames.toFinset.card ≤ path.length + fuel) :
    BuildsType b fuel path dtype (b.typeSchema fuel path dtype) := by
  -- on the fuel: an object put in place takes one of it, and one name that the path did not have
  induction fuel generalizing path dtype with
  | zero =>
    rcases settles_or_put b path dtype with ⟨schema, settles⟩ | ⟨o, put⟩
    · rw [settles.typeSchema_eq]
      exact .settled settles
    · -- the path and this object would be more names than there are
      have long := (h.put put).length_le
      rw [List.length_cons] at long
      omega
  | succ fuel ih =>
    rcases settles_or_put b path dtype with ⟨schema, settles⟩ | ⟨o, put⟩
    · rw [settles.typeSchema_eq]
      exact .settled settles
    · rw [put.typeSchema_eq]
      refine .object put (.intro (b.typeSchema fuel (o.name :: path)) fun a _ dtype _ => ?_)
      exact ih (h.put put) (by rw [List.length_cons]; omega)

/-- An object that is not inside another is built, with objects no deeper inside each other than
there are names of objects. -/
theorem builds_objectSchema (ho : o ∈ b.model.objects) :
    BuildsObject b b.model.objectNames.toFinset.card [] o (b.objectSchema o) := by
  have simple : Simple b.model [o.name] := .single ho
  obtain ⟨further, count⟩ := Nat.exists_eq_add_of_le' simple.length_le
  rw [List.length_singleton] at count
  have built : BuildsObject b (further + 1) [] o
      (.object o (attributeSchemas b further [o.name] o)) :=
    .intro _ fun a _ dtype _ => builds_typeSchema simple (by rw [count, Nat.add_comm]; rfl)
  -- names that are defined twice make the fuel larger than what is used of it
  have enough : further ≤ b.depth := by
    have names : b.model.objectNames.toFinset.card ≤ b.model.objectNames.length :=
      List.toFinset_card_le _
    rw [count, DataModel.objectNames, List.length_map] at names
    exact Nat.le_of_succ_le names
  have same : b.objectSchema o = .object o (attributeSchemas b further [o.name] o) :=
    built.object_eq enough
  rw [count, same]
  exact built

theorem builds_definitionSchema (name : String) :
    BuildsDefinition b b.model.objectNames.toFinset.card name (b.definitionSchema name) := by
  rw [SchemaScope.definitionSchema]
  split
  · next o found =>
    exact .object o found (builds_objectSchema (DataModel.mem_of_object? found))
  · next noObject =>
    split
    · next e found => exact .members e noObject found
    · next noEnumeration => exact .anything noObject noEnumeration

theorem BuildsObject.unique {other : Nat} {result : Schema} (h : BuildsObject b depth path o schema)
    (h' : BuildsObject b other path o result) : schema = result := by
  cases depth with
  | zero => cases h
  | succ depth =>
    cases other with
    | zero => cases h'
    | succ other =>
      exact (h.object_eq (Nat.le_max_left depth other)).symm.trans
        (h'.object_eq (Nat.le_max_right depth other))

end

/-! ## Rounds of definitions -/

/-- The names that are needed and not built. -/
def pendingNames (names : List String) (built : List (String × Schema)) : List String :=
  names.eraseDups.filter fun name => !built.any (·.1 == name)

/-- Definitions are built in a number of rounds until no name is pending, each with at most a number
of objects inside each other. -/
inductive Rounds (b : SchemaScope) (depth : Nat) :
    Nat → List String → List (String × Schema) → List (String × Schema) → Prop where
  | done {names : List String} {built : List (String × Schema)}
    (nothing : pendingNames names built = []) : Rounds b depth 0 names built built
  /-- What is pending is built, and what that refers to is needed next. -/
  | round {count : Nat} {names : List String} {built more result : List (String × Schema)}
    (some : pendingNames names built ≠ []) (pending : more.map (·.1) = pendingNames names built)
    (each : ∀ entry ∈ more, BuildsDefinition b depth entry.1 entry.2)
    (later : Rounds b depth count (more.flatMap fun entry => entry.2.references) (built ++ more)
      result) : Rounds b depth (count + 1) names built result

/-- The names that a model can need: the types of attributes and the enumerations. -/
def neededNames (m : DataModel) : Finset String :=
  (typeUses m ++ m.enums.map (·.name)).toFinset

/-- Definitions of names that a model can need, none of which is built twice. -/
structure BuiltOnce (m : DataModel) (built : List (String × Schema)) : Prop where
  distinct : (built.map (·.1)).Nodup
  needed : ∀ entry ∈ built, entry.1 ∈ neededNames m

theorem nodup_eraseDups (names : List String) : names.eraseDups.Nodup := by
  induction h : names.length using Nat.strongRecOn generalizing names with
  | ind length ih =>
    cases names with
    | nil => simp
    | cons name rest =>
      rw [List.eraseDups_cons, List.nodup_cons]
      refine ⟨by simp [List.mem_eraseDups], ih _ ?_ _ rfl⟩
      rw [← h]
      exact Nat.lt_succ_of_le (List.length_filter_le _ _)

section

variable {b : SchemaScope} {names : List String} {built : List (String × Schema)} {name : String}

theorem mem_pendingNames : name ∈ pendingNames names built ↔ name ∈ names ∧ ¬ Built built name := by
  rw [pendingNames, List.mem_filter, List.mem_eraseDups, not_any_eq_true_iff]

theorem BuiltOnce.length_le {m : DataModel} (h : BuiltOnce m built) :
    built.length ≤ (neededNames m).card := by
  rw [← List.length_map (·.1), ← List.toFinset_card_of_nodup h.distinct]
  refine Finset.card_le_card fun name hn => ?_
  obtain ⟨entry, he, rfl⟩ := List.mem_map.1 (List.mem_toFinset.1 hn)
  exact h.needed entry he

theorem names_definitionEntries (names : List String) :
    (definitionEntries b names).map (·.1) = names := by
  simp [definitionEntries, Function.comp_def]

theorem BuiltOnce.round (h : BuiltOnce b.model built)
    (known : ∀ name ∈ names, name ∈ neededNames b.model) :
    BuiltOnce b.model (built ++ definitionEntries b (pendingNames names built)) := by
  constructor
  · rw [List.map_append, names_definitionEntries, List.nodup_append]
    refine ⟨h.distinct, (nodup_eraseDups names).filter _, ?_⟩
    rintro _ mem name pending rfl
    obtain ⟨entry, he, rfl⟩ := List.mem_map.1 mem
    exact (mem_pendingNames.1 pending).2 ⟨entry, he, rfl⟩
  · intro entry he
    rcases List.mem_append.1 he with he | he
    · exact h.needed entry he
    · obtain ⟨name, pending, rfl⟩ := List.mem_map.1 he
      exact known name (mem_pendingNames.1 pending).1

theorem neededNames_references {pending : List String} :
    ∀ name ∈ (definitionEntries b pending).flatMap (·.2.references),
      name ∈ neededNames b.model := by
  intro name hn
  obtain ⟨entry, he, hn⟩ := List.mem_flatMap.1 hn
  obtain ⟨needed, -, rfl⟩ := List.mem_map.1 he
  exact List.mem_toFinset.2 (List.mem_append_left _ (references_definitionSchema hn))

/-- With a round for each name that is not built, definitions are built until none is pending; each
round builds one at least. -/
theorem rounds_definitionsFrom {fuel : Nat} (h : BuiltOnce b.model built)
    (known : ∀ name ∈ names, name ∈ neededNames b.model)
    (room : (neededNames b.model).card ≤ built.length + fuel) :
    BuiltOnce b.model (b.definitionsFrom names built fuel) ∧
      ∃ count, Rounds b b.model.objectNames.toFinset.card count names built
          (b.definitionsFrom names built fuel) ∧
        built.length + count ≤ (b.definitionsFrom names built fuel).length := by
  -- on the rounds that are left, which are no fewer than the names that are not built
  induction fuel generalizing names built with
  | zero =>
    -- everything that can be needed is built, and a further round would be one too many
    have full := (h.round known).length_le
    rw [List.length_append, definitionEntries, List.length_map] at full
    have nothing : pendingNames names built = [] := List.length_eq_zero_iff.1 (by omega)
    exact ⟨h, 0, .done nothing, Nat.le_refl _⟩
  | succ fuel ih =>
    by_cases nothing : pendingNames names built = []
    · have stays : b.definitionsFrom names built (fuel + 1) = built := by
        rw [SchemaScope.definitionsFrom]
        exact if_pos (List.isEmpty_iff.2 nothing)
      rw [stays]
      exact ⟨h, 0, .done nothing, Nat.le_refl _⟩
    · have round : b.definitionsFrom names built (fuel + 1) =
          b.definitionsFrom
            ((definitionEntries b (pendingNames names built)).flatMap (·.2.references))
            (built ++ definitionEntries b (pendingNames names built)) fuel := by
        rw [SchemaScope.definitionsFrom]
        exact if_neg (mt List.isEmpty_iff.1 nothing)
      have longer : built.length + 1 ≤
          (built ++ definitionEntries b (pendingNames names built)).length := by
        have some := List.length_pos_iff.2 nothing
        rw [List.length_append, definitionEntries, List.length_map]
        omega
      obtain ⟨once, count, later, bound⟩ := ih (h.round known) neededNames_references (by omega)
      rw [round]
      refine ⟨once, count + 1, .round nothing (names_definitionEntries _) ?_ later, by omega⟩
      intro entry he
      obtain ⟨name, -, rfl⟩ := List.mem_map.1 he
      exact builds_definitionSchema name

theorem rounds_definitions (known : ∀ name ∈ names, name ∈ neededNames b.model) :
    ((b.definitions names).map (·.1)).Nodup ∧
      ∃ count ≤ (neededNames b.model).card,
        Rounds b b.model.objectNames.toFinset.card count names [] (b.definitions names) := by
  have start : BuiltOnce b.model [] := ⟨List.nodup_nil, fun _ he => absurd he List.not_mem_nil⟩
  have room : (neededNames b.model).card ≤ ([] : List (String × Schema)).length + b.rounds := by
    have count : (neededNames b.model).card ≤
        (typeUses b.model ++ b.model.enums.map (·.name)).length := List.toFinset_card_le _
    rw [List.length_append, List.length_map, typeUses] at count
    rw [List.length_nil, SchemaScope.rounds]
    omega
  obtain ⟨once, count, rounds, bound⟩ := rounds_definitionsFrom start known room
  rw [List.length_nil, Nat.zero_add] at bound
  exact ⟨once.distinct, count, Nat.le_trans bound once.length_le, rounds⟩

end

/-! ## Documents -/

/-- The scope in which the schemas of a document are built. -/
def documentScope (m : DataModel) (request : Request) (root : Option Object) : SchemaScope :=
  { model := m, root := root.map (·.name), inline := request.inline }

/-- The names that the definitions of a document begin with: those that the root object refers to,
or the enumerations if there is none. -/
def firstNeeded (m : DataModel) (request : Request) : Option Object → List String
  | some root => ((documentScope m request (some root)).objectSchema root).references
  | none => m.enums.map (·.name)

/-- Building the document of a model with this root ends. -/
structure BuildingEnds (m : DataModel) (request : Request) (root : Option Object) : Prop where
  /-- While the root or a definition is built no name is on the path twice, so that objects are no
  deeper inside each other than there are names of objects. -/
  paths : ∀ o ∈ m.objects, ∀ call,
    Relation.ReflTransGen (Begins (documentScope m request root)) ⟨o, []⟩ call →
      call.path.Nodup ∧ call.path.length ≤ m.objectNames.toFinset.card
  /-- A run that needs no fuel builds each of them to this depth. -/
  objects : ∀ o ∈ m.objects, BuildsObject (documentScope m request root)
    m.objectNames.toFinset.card [] o ((documentScope m request root).objectSchema o)
  /-- Every run that ends builds the same. -/
  unique : ∀ o ∈ m.objects, ∀ depth schema,
    BuildsObject (documentScope m request root) depth [] o schema →
      schema = (documentScope m request root).objectSchema o
  /-- No definition is built twice. -/
  distinct : (((documentScope m request root).definitions (firstNeeded m request root)).map
    (·.1)).Nodup
  /-- There are at most as many rounds as types of attributes and enumerations together. -/
  rounds : ∃ count ≤ (typeUses m ++ m.enums.map (·.name)).toFinset.card,
    Rounds (documentScope m request root) m.objectNames.toFinset.card count
      (firstNeeded m request root) []
      ((documentScope m request root).definitions (firstNeeded m request root))

theorem neededNames_firstNeeded {m : DataModel} {request : Request} {root : Option Object}
    (h : rootObject m request = .ok root) :
    ∀ name ∈ firstNeeded m request root, name ∈ neededNames m := by
  intro name hn
  refine List.mem_toFinset.2 (List.mem_append.2 ?_)
  cases root with
  | none => exact .inr hn
  | some root =>
    have mem := DataModel.mem_of_object? (object?_rootObject h)
    exact .inl (references_object (b := documentScope m request (some root)) mem hn)

/-- Building ends for every model, every root and whatever is put in place. -/
theorem building_ends (m : DataModel) (request : Request) (root : Option Object)
    (h : rootObject m request = .ok root) : BuildingEnds m request root := by
  obtain ⟨distinct, rounds⟩ :=
    rounds_definitions (b := documentScope m request root) (neededNames_firstNeeded h)
  refine ⟨fun o ho call calls => ?paths, fun o ho => builds_objectSchema ho,
    fun o ho depth schema built => built.unique (builds_objectSchema ho), distinct, rounds⟩
  case paths =>
    have simple := Simple.of_calls ho calls
    exact ⟨simple.distinct, simple.length_le⟩

/-- A model that is not valid: a name is defined twice, a type is unknown, and everything is inside
everything. -/
def tangledModel : DataModel where
  objects :=
    [{ name := "Knot", attributes := [{ name := "ends", dtypes := ["Rope", "Knot", "Loop"] }] },
     { name := "Rope", attributes := [{ name := "knot", dtypes := ["Knot", "Fibre"] }] },
     { name := "Knot", attributes := [{ name := "knot", dtypes := ["Rope"] }] }]
  enums := [{ name := "Fibre" }]

theorem tangledModel_building_ends :
    rootObject tangledModel { root := some "Rope", inline := true } =
        .ok tangledModel.objects[1]? ∧
      BuildingEnds tangledModel { root := some "Rope", inline := true } tangledModel.objects[1]? :=
  ⟨by decide, building_ends tangledModel { root := some "Rope", inline := true } _ (by decide)⟩

end Target.JsonSchema
end DocModel

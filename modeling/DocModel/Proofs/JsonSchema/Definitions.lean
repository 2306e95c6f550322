import DocModel.Proofs.Model.Kinds
import DocModel.Target.JsonSchema

/-!
# DocModel.Proofs.JsonSchema.Definitions

The definitions of a document are complete: `definitions_complete` says that every name that is
needed is built, that every name that a built definition refers to is built, and that each
definition says what `SchemaScope.definitionSchema` says of its name.

* `TypeView` lists what `SchemaScope.typeSchema` can be; everything else is read off from it;
* every reference is a type that some attribute names, so there are finitely many (`typeUses`);
* a round that builds anything builds a name that was missing before, so the rounds suffice.
-/

namespace DocModel

namespace Target.JsonSchema

variable {b : SchemaScope} {dtype name : String}

/-! ## What the schema of a type can be -/

/-- The attributes of an object with the schemas of their types. -/
def attributeSchemas (b : SchemaScope) (fuel : Nat) (path : List String) (o : Object) :
    List (Attribute × List Schema) :=
  o.attributes.map fun a => (a, a.dtypes.map (b.typeSchema fuel path))

/-- What a type that is no object says. -/
inductive PlainSchema (m : DataModel) (dtype : String) : Schema → Prop where
  | primitive (p : Primitive) (kind : m.classify dtype = .primitive p) :
    PlainSchema m dtype (.primitive p)
  | members (e : Enumeration) (kind : m.classify dtype = .enumeration dtype)
    (found : m.enumeration? dtype = some e) : PlainSchema m dtype (.members e)
  /-- A name that the model does not define. -/
  | anything (kind : m.classify dtype = .unknown dtype) : PlainSchema m dtype .anything

/-- The schemas that a type can have with this fuel: what it says, or a reference to that. -/
inductive TypeView (b : SchemaScope) (fuel : Nat) (dtype : String) : Schema → Prop where
  /-- A type that is no object. -/
  | plain {schema : Schema} (means : PlainSchema b.model dtype schema) :
    TypeView b fuel dtype schema
  /-- A reference to a definition that is no object. -/
  | plainReference (means : PlainSchema b.model dtype (b.definitionSchema dtype)) :
    TypeView b fuel dtype (.definition dtype)
  | root (o : Object) (found : b.model.object? dtype = some o) (isRoot : b.root = some dtype) :
    TypeView b fuel dtype .root
  | objectReference (o : Object) (found : b.model.object? dtype = some o) :
    TypeView b fuel dtype (.definition dtype)
  /-- An object that is put here. -/
  | object (o : Object) (found : b.model.object? dtype = some o) (less : Nat)
    (path : List String) (lt : less < fuel) :
    TypeView b fuel dtype (.object o (attributeSchemas b less path o))

theorem definitionSchema_object {o : Object} (h : b.model.object? name = some o) :
    b.definitionSchema name = .object o (attributeSchemas b b.depth [o.name] o) := by
  rw [SchemaScope.definitionSchema, h]
  rfl

theorem typeView (fuel : Nat) (path : List String) (dtype : String) :
    TypeView b fuel dtype (b.typeSchema fuel path dtype) := by
  rw [SchemaScope.typeSchema.eq_def]
  dsimp only
  split
  · next p hp => exact .plain (.primitive p hp)
  · next unknown hu =>
    obtain ⟨rfl, noObject, noEnumeration⟩ := DataModel.classify_eq_unknown hu
    refine .plainReference ?_
    rw [SchemaScope.definitionSchema, noObject, noEnumeration]
    exact .anything hu
  · next enumeration he =>
    obtain ⟨rfl, noObject, e, found⟩ := DataModel.classify_eq_enumeration he
    split
    · next e' _ hf => exact .plain (.members e' he hf)
    · refine .plainReference ?_
      rw [SchemaScope.definitionSchema, noObject, found]
      exact .members e he found
  · next object ho =>
    obtain ⟨rfl, o, found⟩ := DataModel.classify_eq_object ho
    split
    · next hr => exact .root o found (by simpa using hr)
    · split
      · next n o' _ hf => exact .object o' hf n _ (Nat.lt_succ_self n)
      · exact .objectReference o found

/-! ## References -/

theorem mem_schemaReferences {schemas : List Schema} :
    name ∈ schemaReferences schemas ↔ ∃ schema ∈ schemas, name ∈ schema.references := by
  induction schemas with
  | nil => simp [schemaReferences]
  | cons schema rest ih => simp [schemaReferences, ih]

theorem mem_propertyReferences {properties : List (Attribute × List Schema)} :
    name ∈ propertyReferences properties ↔
      ∃ property ∈ properties, ∃ schema ∈ property.2, name ∈ schema.references := by
  induction properties with
  | nil => simp [propertyReferences]
  | cons property rest ih =>
    obtain ⟨a, schemas⟩ := property
    simp [propertyReferences, mem_schemaReferences, ih]

/-- An object refers to what the types of its attributes refer to. -/
theorem mem_references_object {o : Object} {fuel : Nat} {path : List String} :
    name ∈ (Schema.object o (attributeSchemas b fuel path o)).references ↔
      ∃ a ∈ o.attributes, ∃ dtype ∈ a.dtypes, name ∈ (b.typeSchema fuel path dtype).references := by
  rw [Schema.references, mem_propertyReferences, attributeSchemas]
  constructor
  · rintro ⟨property, hp, schema, hs, hn⟩
    obtain ⟨a, ha, rfl⟩ := List.mem_map.1 hp
    obtain ⟨dtype, hd, rfl⟩ := List.mem_map.1 hs
    exact ⟨a, ha, dtype, hd, hn⟩
  · rintro ⟨a, ha, dtype, hd, hn⟩
    exact ⟨_, List.mem_map.2 ⟨a, ha, rfl⟩, _, List.mem_map.2 ⟨dtype, hd, rfl⟩, hn⟩

theorem PlainSchema.references {m : DataModel} {schema : Schema} (h : PlainSchema m dtype schema) :
    schema.references = [] := by
  cases h <;> rfl

def typeUses (m : DataModel) : List String := m.allAttributes.flatMap (·.dtypes)

theorem mem_typeUses {m : DataModel} {o : Object} {a : Attribute} (ho : o ∈ m.objects)
    (ha : a ∈ o.attributes) (hd : dtype ∈ a.dtypes) : dtype ∈ typeUses m :=
  List.mem_flatMap.2 ⟨a, List.mem_flatMap.2 ⟨o, ho, ha⟩, hd⟩

theorem references_typeSchema {fuel : Nat} {path : List String}
    (h : name ∈ (b.typeSchema fuel path dtype).references) :
    name = dtype ∨ name ∈ typeUses b.model := by
  induction fuel using Nat.strongRecOn generalizing path dtype with
  | ind fuel ih =>
    generalize hs : b.typeSchema fuel path dtype = schema at h
    have view := hs ▸ typeView fuel path dtype
    cases view with
    | plain means =>
      rw [means.references] at h
      cases h
    | plainReference => exact .inl (List.mem_singleton.1 h)
    | root => cases h
    | objectReference => exact .inl (List.mem_singleton.1 h)
    | object o found less inner lt =>
      obtain ⟨a, ha, used, hd, hn⟩ := mem_references_object.1 h
      rcases ih less lt hn with rfl | hn
      · exact .inr (mem_typeUses (DataModel.mem_of_object? found) ha hd)
      · exact .inr hn

theorem references_object {o : Object} {fuel : Nat} {path : List String} (ho : o ∈ b.model.objects)
    (h : name ∈ (Schema.object o (attributeSchemas b fuel path o)).references) :
    name ∈ typeUses b.model := by
  obtain ⟨a, ha, used, hd, hn⟩ := mem_references_object.1 h
  rcases references_typeSchema hn with rfl | hn
  · exact mem_typeUses ho ha hd
  · exact hn

theorem references_definitionSchema {needed : String}
    (h : name ∈ (b.definitionSchema needed).references) : name ∈ typeUses b.model := by
  cases ho : b.model.object? needed with
  | some o =>
    rw [definitionSchema_object ho] at h
    exact references_object (DataModel.mem_of_object? ho) h
  | none =>
    rw [SchemaScope.definitionSchema, ho] at h
    cases he : b.model.enumeration? needed <;> simp [he, Schema.references] at h

/-! ## Building definitions -/

def Built (built : List (String × Schema)) (name : String) : Prop := ∃ entry ∈ built, entry.1 = name

theorem not_any_eq_true_iff {built : List (String × Schema)} :
    (!built.any (·.1 == name)) = true ↔ ¬ Built built name := by
  rw [Bool.not_eq_true', ← Bool.not_eq_true, List.any_eq_true]
  simp only [beq_iff_eq, Built]

theorem Built.append_left {built : List (String × Schema)} (h : Built built name)
    (more : List (String × Schema)) : Built (built ++ more) name := by
  obtain ⟨entry, he, rfl⟩ := h
  exact ⟨entry, List.mem_append_left more he, rfl⟩

theorem Built.append_right {more : List (String × Schema)} (h : Built more name)
    (built : List (String × Schema)) : Built (built ++ more) name := by
  obtain ⟨entry, he, rfl⟩ := h
  exact ⟨entry, List.mem_append_right built he, rfl⟩

/-- A definition of each of some names. -/
def definitionEntries (b : SchemaScope) (names : List String) : List (String × Schema) :=
  names.map fun name => (name, b.definitionSchema name)

theorem built_definitionEntries {names : List String} (h : name ∈ names) :
    Built (definitionEntries b names) name :=
  ⟨(name, b.definitionSchema name), List.mem_map.2 ⟨name, h, rfl⟩, rfl⟩

/-- Definitions as they are built: each says what its name means, and what it refers to is built or
comes next. -/
structure Progress (b : SchemaScope) (next : List String) (built : List (String × Schema)) :
    Prop where
  /-- Each says what its name means. -/
  means : ∀ entry ∈ built, entry.2 = b.definitionSchema entry.1
  /-- What it refers to is built or comes next. -/
  covered : ∀ entry ∈ built, ∀ name ∈ entry.2.references, Built built name ∨ name ∈ next

/-- The names of a model that are not built. -/
def missing (m : DataModel) (built : List (String × Schema)) : List String :=
  (typeUses m).filter fun name => !built.any (·.1 == name)

theorem mem_missing {m : DataModel} {built : List (String × Schema)} :
    name ∈ missing m built ↔ name ∈ typeUses m ∧ ¬ Built built name := by
  rw [missing, List.mem_filter, not_any_eq_true_iff]

theorem missing_append_lt {m : DataModel} {built more : List (String × Schema)}
    (h : name ∈ missing m built) (hm : Built more name) :
    (missing m (built ++ more)).length < (missing m built).length := by
  have fewer : missing m (built ++ more) =
      (missing m built).filter fun name => !more.any (·.1 == name) := by
    rw [missing, missing, List.filter_filter]
    refine List.filter_congr fun name _ => ?_
    rw [List.any_append, Bool.not_or, Bool.and_comm]
  rw [fewer]
  refine List.length_filter_lt_length_iff_exists.2 ⟨name, h, ?_⟩
  obtain ⟨entry, he, rfl⟩ := hm
  simpa using ⟨entry.2, he⟩

/-- One round: what is needed next is built, and what that refers to comes next. -/
theorem Progress.round {names : List String} {built : List (String × Schema)}
    (h : Progress b names built) (pending : List String)
    (hp : ∀ name ∈ names, Built built name ∨ name ∈ pending) :
    Progress b ((definitionEntries b pending).flatMap fun entry => entry.2.references)
      (built ++ definitionEntries b pending) := by
  constructor
  · intro entry he
    rcases List.mem_append.1 he with he | he
    · exact h.means entry he
    · obtain ⟨name, -, rfl⟩ := List.mem_map.1 he
      rfl
  · intro entry he name hn
    rcases List.mem_append.1 he with he | he
    · left
      rcases (h.covered entry he name hn).elim .inl (hp name) with hb | hname
      · exact hb.append_left _
      · exact (built_definitionEntries hname).append_right built
    · exact .inr (List.mem_flatMap.2 ⟨entry, he, hn⟩)

/-- Only definitions of what is needed are built: what holds of the needed names, and with a name of
what its definition refers to, holds of all that is built. -/
theorem forall_definitionsFrom {p : String → Prop} {rounds : Nat} {names : List String}
    {built : List (String × Schema)} (hn : ∀ name ∈ names, p name)
    (hr : ∀ needed, p needed → ∀ name ∈ (b.definitionSchema needed).references, p name)
    (hb : ∀ entry ∈ built, p entry.1 ∧ entry.2 = b.definitionSchema entry.1) :
    ∀ entry ∈ b.definitionsFrom names built rounds,
      p entry.1 ∧ entry.2 = b.definitionSchema entry.1 := by
  induction rounds generalizing names built with
  | zero => exact hb
  | succ rounds ih =>
    rw [SchemaScope.definitionsFrom]
    dsimp only
    split
    · exact hb
    · have pending : ∀ needed ∈ names.eraseDups.filter fun name => !built.any (·.1 == name),
          p needed := fun needed hp => hn needed (List.mem_eraseDups.1 (List.mem_filter.1 hp).1)
      refine ih (fun name hname => ?_) fun entry he => ?_
      · obtain ⟨entry, he, hname⟩ := List.mem_flatMap.1 hname
        obtain ⟨needed, hp, rfl⟩ := List.mem_map.1 he
        exact hr needed (pending needed hp) name hname
      · rcases List.mem_append.1 he with he | he
        · exact hb entry he
        · obtain ⟨needed, hp, rfl⟩ := List.mem_map.1 he
          exact ⟨pending needed hp, rfl⟩

theorem forall_definitions {p : String → Prop} {names : List String} (hn : ∀ name ∈ names, p name)
    (hr : ∀ needed, p needed → ∀ name ∈ (b.definitionSchema needed).references, p name) :
    ∀ entry ∈ b.definitions names, p entry.1 ∧ entry.2 = b.definitionSchema entry.1 :=
  forall_definitionsFrom hn hr fun _ he => (nomatch he)

/-- With a round for each missing name everything that is needed gets built. -/
theorem definitionsFrom_complete {rounds : Nat} {names : List String}
    {built : List (String × Schema)} (h : Progress b names built)
    (hn : ∀ name ∈ names, name ∈ typeUses b.model)
    (hr : (missing b.model built).length < rounds) :
    Progress b [] (b.definitionsFrom names built rounds) ∧
      (∀ name, Built built name ∨ name ∈ names → Built (b.definitionsFrom names built rounds) name)
      := by
  induction rounds generalizing names built with
  | zero => exact absurd hr (Nat.not_lt_zero _)
  | succ rounds ih =>
    rw [SchemaScope.definitionsFrom]
    generalize hpe : names.eraseDups.filter (fun name => !built.any (·.1 == name)) = pending
    have mem_pending : ∀ name, name ∈ pending ↔ name ∈ names ∧ ¬ Built built name := by
      intro name
      rw [← hpe, List.mem_filter, List.mem_eraseDups, not_any_eq_true_iff]
    have settled : ∀ name ∈ names, Built built name ∨ name ∈ pending := by
      intro name hname
      by_cases hb : Built built name
      · exact .inl hb
      · exact .inr ((mem_pending name).2 ⟨hname, hb⟩)
    cases pending with
    | nil =>
      have all : ∀ name ∈ names, Built built name := fun name hname =>
        (settled name hname).resolve_right List.not_mem_nil
      refine ⟨⟨h.means, fun entry he name hname => ?_⟩, fun name hname => ?_⟩
      · exact .inl ((h.covered entry he name hname).elim id (all name))
      · exact hname.elim id (all name)
    | cons first rest =>
      have uses : ∀ name ∈ (definitionEntries b (first :: rest)).flatMap (·.2.references),
          name ∈ typeUses b.model := by
        intro name hname
        obtain ⟨entry, he, hname⟩ := List.mem_flatMap.1 hname
        obtain ⟨needed, -, rfl⟩ := List.mem_map.1 he
        exact references_definitionSchema hname
      have fewer : (missing b.model (built ++ definitionEntries b (first :: rest))).length <
          rounds := by
        have hf := (mem_pending first).1 List.mem_cons_self
        have hm : first ∈ missing b.model built := mem_missing.2 ⟨hn first hf.1, hf.2⟩
        have hb : Built (definitionEntries b (first :: rest)) first :=
          built_definitionEntries List.mem_cons_self
        exact Nat.lt_of_lt_of_le (missing_append_lt hm hb) (Nat.le_of_lt_succ hr)
      obtain ⟨done, kept⟩ := ih (h.round (first :: rest) settled) uses fewer
      refine ⟨done, fun name hname => kept name (.inl ?_)⟩
      rcases hname.elim .inl (settled name) with hb | hname
      · exact hb.append_left _
      · exact (built_definitionEntries hname).append_right built

/-- The definitions that some types need: these types are among them, each says what its name means,
and what they refer to is among them. -/
theorem definitions_complete {names : List String} (hn : ∀ name ∈ names, name ∈ typeUses b.model) :
    (∀ name ∈ names, Built (b.definitions names) name) ∧
      (∀ entry ∈ b.definitions names, entry.2 = b.definitionSchema entry.1) ∧
      (∀ entry ∈ b.definitions names, ∀ name ∈ entry.2.references,
        Built (b.definitions names) name) := by
  have start : Progress b names [] := ⟨fun _ he => (nomatch he), fun _ he => (nomatch he)⟩
  have enough : (missing b.model []).length < b.rounds := by
    have : (missing b.model []).length ≤ (typeUses b.model).length := List.length_filter_le _ _
    unfold SchemaScope.rounds
    unfold typeUses at this
    omega
  obtain ⟨done, kept⟩ := definitionsFrom_complete start hn enough
  refine ⟨fun name hname => kept name (.inr hname), done.means, fun entry he name hname => ?_⟩
  exact (done.covered entry he name hname).resolve_right List.not_mem_nil

end Target.JsonSchema
end DocModel

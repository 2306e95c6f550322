import DocModel.Proofs.Entries
import DocModel.Proofs.Validation.Forms
import DocModel.Validation.Report

/-!
# DocModel.Proofs.Validation.WellFormed

What a report without findings means. `WellFormed` says what a model has to be, without the rules;
each rule is shown to find nothing exactly when its part of `WellFormed` holds, and
`isValid_iff_wellFormed` puts the parts together. The order of the findings plays no role.
-/

namespace DocModel
namespace Validation

open Text

/-- A name that denotes a type in a model: a definition of exactly that name, or a spelling of a
primitive type up to case and white space around it. -/
def KnownType (m : DataModel) (dtype : String) : Prop :=
  (∃ o ∈ m.objects, o.name = dtype) ∨ (∃ e ∈ m.enums, e.name = dtype) ∨
    ∃ p : Primitive, ∃ word ∈ p.spellings, equalsIgnoringCase (onChars trim dtype) word = true

/-- A prefix that some settings declare. -/
def DeclaredPrefix (c : Config) (name : String) : Prop :=
  name ∈ c.prefixes.names ∨ name ∈ c.nsmap.names ∨ c.ownPrefix = some name

/-- A term that is a URI or begins with a declared prefix. -/
def KnownTerm (c : Config) (term : String) : Prop :=
  Uri term.toList ∨ ∃ name, Curie name term.toList ∧ DeclaredPrefix c (String.ofList name)

/-- What is asked of an attribute. -/
structure WellFormedAttribute (m : DataModel) (a : Attribute) : Prop where
  /-- It has a proper name. -/
  named : AttributeName a.name.toList
  typed : a.dtypes ≠ []
  known : ∀ dtype ∈ a.dtypes, KnownType m dtype
  /-- An identifier is no list. -/
  single : ¬ (a.isId = true ∧ a.multiple = true)
  /-- Its term can be resolved. -/
  term : ∀ term, a.term = some term → KnownTerm m.config term
  /-- It is an element of its own name in XML, or has a proper name there. -/
  xml : a.xml = { isAttribute := false, name := a.name } ∨ XmlName a.xml.name.toList

/-- What is asked of a model and of its reading. -/
structure WellFormed (reading : Dialect.Reading) : Prop where
  /-- Every line could be read. -/
  read : reading.diagnostics = []
  defined : reading.model.objects ≠ [] ∨ reading.model.enums ≠ []
  /-- No two definitions have the same name. -/
  distinct : (reading.model.objects.map (·.name) ++ reading.model.enums.map (·.name)).Nodup
  /-- No two attributes of an object have the same name. -/
  distinctAttributes : ∀ o ∈ reading.model.objects, (o.attributes.map (·.name)).Nodup
  objectsNamed : ∀ o ∈ reading.model.objects, DefinitionName o.name.toList
  enumsNamed : ∀ e ∈ reading.model.enums, DefinitionName e.name.toList
  /-- The attributes are what they should be. -/
  attributes : ∀ o ∈ reading.model.objects, ∀ a ∈ o.attributes,
    WellFormedAttribute reading.model a
  /-- Every enumeration has a member. -/
  inhabited : ∀ e ∈ reading.model.enums, e.mappings.entries ≠ []

/-! ## Repeated names -/

theorem repeatedAfter_eq_nil_iff {α : Type} {name : α → String} {seen : List String}
    {items : List α} : repeatedAfter name seen items = [] ↔
      (items.map name).Nodup ∧ ∀ item ∈ items, name item ∉ seen := by
  induction items generalizing seen with
  | nil => simp [repeatedAfter]
  | cons item rest ih =>
    simp only [repeatedAfter]
    split
    · next h =>
      have hm : name item ∈ seen := by simpa using h
      simp [hm]
    · next h =>
      have hm : name item ∉ seen := by simpa using h
      simp only [ih, List.map_cons, List.nodup_cons, List.mem_map, not_exists, not_and]
      rw [List.forall_mem_cons]
      simp only [List.mem_cons, not_or]
      constructor
      · rintro ⟨hn, hr⟩
        exact ⟨⟨fun x hx => (hr x hx).1, hn⟩, hm, fun x hx => (hr x hx).2⟩
      · rintro ⟨⟨hx, hn⟩, -, hr⟩
        exact ⟨hn, fun x hm => ⟨hx x hm, hr x hm⟩⟩

theorem repeated_eq_nil_iff {α : Type} {name : α → String} {items : List α} :
    repeated name items = [] ↔ (items.map name).Nodup := by
  simp [repeated, repeatedAfter_eq_nil_iff]

theorem headings_names_perm (m : DataModel) :
    ((headings m).map (·.name)).Perm (m.objects.map (·.name) ++ m.enums.map (·.name)) := by
  have h : (headings m).Perm
      (m.objects.map Heading.ofObject ++ m.enums.map Heading.ofEnumeration) :=
    List.mergeSort_perm _ _
  have hn := h.map (·.name)
  simpa [Function.comp_def, Heading.ofObject, Heading.ofEnumeration] using hn

theorem duplicateRule_eq_nil_iff {m : DataModel} : duplicateRule m = [] ↔
    (m.objects.map (·.name) ++ m.enums.map (·.name)).Nodup ∧
      ∀ o ∈ m.objects, (o.attributes.map (·.name)).Nodup := by
  simp only [duplicateRule, List.append_eq_nil_iff, List.map_eq_nil_iff, List.flatMap_eq_nil_iff,
    repeated_eq_nil_iff, (headings_names_perm m).nodup_iff]

/-! ## Names -/

theorem definitionNameFinding_eq_nil_iff {kind name : String} {position : SourcePosition} :
    definitionNameFinding kind name position = [] ↔ DefinitionName name.toList := by
  rw [← isDefinitionName_iff, definitionNameFinding]
  split <;> simp_all

theorem attributeNameFinding_eq_nil_iff {o : Object} {a : Attribute} :
    attributeNameFinding o a = [] ↔ AttributeName a.name.toList := by
  rw [← isAttributeName_iff, attributeNameFinding]
  split <;> simp_all

theorem nameRule_eq_nil_iff {m : DataModel} : nameRule m = [] ↔
    (∀ o ∈ m.objects, DefinitionName o.name.toList ∧
      ∀ a ∈ o.attributes, AttributeName a.name.toList) ∧
    ∀ e ∈ m.enums, DefinitionName e.name.toList := by
  simp only [nameRule, List.append_eq_nil_iff, List.flatMap_eq_nil_iff,
    definitionNameFinding_eq_nil_iff, attributeNameFinding_eq_nil_iff]

/-! ## Types -/

theorem read?_isSome_iff {dtype : String} : (Primitive.read? dtype).isSome = true ↔
    ∃ p : Primitive, ∃ word ∈ p.spellings,
      equalsIgnoringCase (onChars trim dtype) word = true := by
  have small : ∀ p : Primitive, ∀ word ∈ p.spellings, asciiLowercase word = word := by
    intro p
    cases p <;> decide
  have complete : ∀ p : Primitive, p ∈ Primitive.all := by
    intro p
    cases p <;> decide
  simp only [Primitive.read?, List.find?_isSome, List.contains_iff_mem, equalsIgnoringCase,
    beq_iff_eq]
  constructor
  · rintro ⟨p, -, hw⟩
    exact ⟨p, _, hw, (small p _ hw).symm⟩
  · rintro ⟨p, word, hw, he⟩
    rw [small p word hw] at he
    exact ⟨p, complete p, he ▸ hw⟩

theorem resolve_isSome_iff {m : DataModel} {dtype : String} :
    (m.resolve dtype).isSome = true ↔ KnownType m dtype := by
  have object_iff : (m.object? dtype).isSome = true ↔ ∃ o ∈ m.objects, o.name = dtype := by
    simp [DataModel.object?]
  have enum_iff : (m.enumeration? dtype).isSome = true ↔ ∃ e ∈ m.enums, e.name = dtype := by
    simp [DataModel.enumeration?]
  rw [KnownType, ← object_iff, ← enum_iff, ← read?_isSome_iff, DataModel.resolve]
  cases m.object? dtype with
  | some o => simp
  | none =>
    cases m.enumeration? dtype with
    | some e => simp
    | none => simp

theorem typeFindings_eq_nil_iff {m : DataModel} {o : Object} {a : Attribute} :
    typeFindings m o a = [] ↔
      a.dtypes ≠ [] ∧ (∀ dtype ∈ a.dtypes, KnownType m dtype) ∧
        ¬ (a.isId = true ∧ a.multiple = true) := by
  have unknown_iff : (a.dtypes.filter fun dtype => (m.resolve dtype).isNone) = [] ↔
      ∀ dtype ∈ a.dtypes, KnownType m dtype := by
    rw [List.filter_eq_nil_iff]
    refine forall₂_congr fun dtype _ => ?_
    rw [← resolve_isSome_iff]
    cases m.resolve dtype <;> simp
  simp only [typeFindings, List.append_eq_nil_iff, List.map_eq_nil_iff, unknown_iff,
    ite_eq_right_iff, List.isEmpty_iff, Bool.and_eq_true, List.cons_ne_nil, imp_false, and_assoc,
    ne_eq]

/-! ## Terms and XML names -/

theorem Dictionary.contains_iff {d : Dictionary} {name : String} :
    d.contains name = true ↔ name ∈ d.names := by
  rw [Dictionary.contains, Dictionary.find?, Dictionary.names]
  induction d.entries with
  | nil => simp
  | cons entry rest ih =>
    obtain ⟨key, value⟩ := entry
    rw [lookup_entry]
    by_cases h : name = key <;> simp [h, ih]

theorem bindsPrefix_iff {c : Config} {name : String} :
    c.bindsPrefix name = true ↔ DeclaredPrefix c name := by
  simp [Config.bindsPrefix, DeclaredPrefix, Dictionary.contains_iff, or_assoc]

theorem termFault?_eq_none_iff {c : Config} {term : String} :
    termFault? c term = none ↔ KnownTerm c term := by
  rw [termFault?, KnownTerm, ← isUri_iff]
  split
  · next h => simp [h]
  · next h =>
    rw [or_iff_right h]
    split
    · next name hn =>
      have hc : Curie name term.toList := curiePrefix?_eq_some_iff.1 hn
      have unique : ∀ other, Curie other term.toList → other = name := fun other ho =>
        Option.some.inj ((curiePrefix?_eq_some_iff.2 ho).symm.trans hn)
      have known : (∃ other, Curie other term.toList ∧ DeclaredPrefix c (String.ofList other)) ↔
          DeclaredPrefix c (String.ofList name) := by
        constructor
        · rintro ⟨other, ho, hd⟩
          rwa [unique other ho] at hd
        · exact fun hd => ⟨name, hc, hd⟩
      rw [known, ← bindsPrefix_iff]
      dsimp only
      split <;> simp_all
    · next hn =>
      simp only [reduceCtorEq, false_iff, not_exists, not_and]
      intro name hc
      rw [curiePrefix?_eq_some_iff.2 hc] at hn
      cases hn

theorem termFindings_eq_nil_iff {m : DataModel} {o : Object} {a : Attribute} :
    termFindings m o a = [] ↔ ∀ term, a.term = some term → KnownTerm m.config term := by
  rw [termFindings]
  cases a.term with
  | none => simp
  | some term =>
    rw [Option.bind_some]
    cases h : termFault? m.config term with
    | none => simpa using termFault?_eq_none_iff.1 h
    | some message =>
      simp only [List.cons_ne_nil, Option.some.injEq, forall_eq', false_iff]
      intro hk
      rw [termFault?_eq_none_iff.2 hk] at h
      cases h

theorem xmlFindings_eq_nil_iff {o : Object} {a : Attribute} :
    xmlFindings o a = [] ↔
      a.xml = { isAttribute := false, name := a.name } ∨ XmlName a.xml.name.toList := by
  rw [← isXmlName_iff, xmlFindings, XmlHint.ofElement]
  split <;> simp_all

/-! ## The report -/

theorem forAttributes_eq_nil_iff {m : DataModel} {rule : Object → Attribute → List Finding} :
    forAttributes m rule = [] ↔ ∀ o ∈ m.objects, ∀ a ∈ o.attributes, rule o a = [] := by
  simp [forAttributes]

theorem enumerationRule_eq_nil_iff {m : DataModel} :
    enumerationRule m = [] ↔ ∀ e ∈ m.enums, e.mappings.entries ≠ [] := by
  simp [enumerationRule, List.filter_eq_nil_iff, Dictionary.isEmpty]

theorem isValid_ofFindings {findings : List Finding} :
    (Report.ofFindings findings).isValid = true ↔ findings = [] := by
  rw [Report.isValid, Report.ofFindings, List.isEmpty_iff, ← List.length_eq_zero_iff,
    List.length_mergeSort, List.length_eq_zero_iff]

theorem allFindings_eq_nil_iff {reading : Dialect.Reading} :
    allFindings reading = [] ↔ reading.diagnostics = [] ∧ duplicateRule reading.model = [] ∧
      nameRule reading.model = [] ∧ typeRule reading.model = [] ∧ termRule reading.model = [] ∧
      xmlRule reading.model = [] ∧ enumerationRule reading.model = [] := by
  simp only [allFindings, diagnosticRule, List.append_eq_nil_iff, List.map_eq_nil_iff, and_assoc]

theorem isValid_reportOf {reading : Dialect.Reading} : (reportOf reading).isValid = true ↔
    (reading.model.objects ≠ [] ∨ reading.model.enums ≠ []) ∧ allFindings reading = [] := by
  rw [reportOf]
  split
  · next h =>
    simp only [DataModel.isEmpty, Bool.and_eq_true, List.isEmpty_iff] at h
    simp [isValid_ofFindings, h.1.1, h.1.2]
  · next h =>
    simp only [DataModel.isEmpty, Bool.and_eq_true, List.isEmpty_iff] at h
    rw [isValid_ofFindings]
    refine ⟨fun hf => ⟨?_, hf⟩, And.right⟩
    have hd := (allFindings_eq_nil_iff.1 hf).1
    by_cases ho : reading.model.objects = []
    · exact .inr fun he => h ⟨⟨ho, he⟩, hd⟩
    · exact .inl ho

/-- A report without the duplicates that it sorts: the conditions can be decided. -/
theorem isValid_iff_rules {reading : Dialect.Reading} : (reportOf reading).isValid = true ↔
    (reading.model.objects ≠ [] ∨ reading.model.enums ≠ []) ∧ reading.diagnostics = [] ∧
      ((reading.model.objects.map (·.name) ++ reading.model.enums.map (·.name)).Nodup ∧
        ∀ o ∈ reading.model.objects, (o.attributes.map (·.name)).Nodup) ∧
      nameRule reading.model = [] ∧ typeRule reading.model = [] ∧ termRule reading.model = [] ∧
      xmlRule reading.model = [] ∧ enumerationRule reading.model = [] := by
  rw [isValid_reportOf, allFindings_eq_nil_iff, duplicateRule_eq_nil_iff]

/-- What is left to check of a model that is given and not read. -/
theorem isValid_of_rules {m : DataModel} (defined : m.objects ≠ [] ∨ m.enums ≠ [])
    (distinct : m.typeNames.Nodup ∧ ∀ o ∈ m.objects, (o.attributes.map (·.name)).Nodup)
    (rules : nameRule m = [] ∧ typeRule m = [] ∧ termRule m = [] ∧ xmlRule m = [] ∧
      enumerationRule m = []) : (reportOf { model := m }).isValid = true :=
  isValid_iff_rules.2 ⟨defined, rfl, distinct, rules⟩

/-- Soundness: a model without findings is well-formed. -/
theorem wellFormed_of_isValid {reading : Dialect.Reading}
    (h : (reportOf reading).isValid = true) : WellFormed reading := by
  obtain ⟨defined, found⟩ := isValid_reportOf.1 h
  obtain ⟨read, duplicates, names, types, terms, xml, enums⟩ := allFindings_eq_nil_iff.1 found
  obtain ⟨distinct, distinctAttributes⟩ := duplicateRule_eq_nil_iff.1 duplicates
  obtain ⟨objectNames, enumNames⟩ := nameRule_eq_nil_iff.1 names
  have typed := forAttributes_eq_nil_iff.1 types
  have termed := forAttributes_eq_nil_iff.1 terms
  have hinted := forAttributes_eq_nil_iff.1 xml
  refine ⟨read, defined, distinct, distinctAttributes, fun o ho => (objectNames o ho).1, enumNames,
    fun o ho a ha => ?_, enumerationRule_eq_nil_iff.1 enums⟩
  obtain ⟨hasType, known, single⟩ := typeFindings_eq_nil_iff.1 (typed o ho a ha)
  exact ⟨(objectNames o ho).2 a ha, hasType, known, single,
    termFindings_eq_nil_iff.1 (termed o ho a ha), xmlFindings_eq_nil_iff.1 (hinted o ho a ha)⟩

theorem WellFormed.typesNamed {reading : Dialect.Reading} (h : WellFormed reading) :
    ∀ name ∈ reading.model.typeNames, DefinitionName name.toList :=
  List.forall_mem_append.2
    ⟨List.forall_mem_map.2 h.objectsNamed, List.forall_mem_map.2 h.enumsNamed⟩

/-- Completeness: a well-formed model has no findings. -/
theorem isValid_of_wellFormed {reading : Dialect.Reading} (h : WellFormed reading) :
    (reportOf reading).isValid = true := by
  refine isValid_reportOf.2 ⟨h.defined, allFindings_eq_nil_iff.2 ⟨h.read, ?_, ?_, ?_, ?_, ?_, ?_⟩⟩
  · exact duplicateRule_eq_nil_iff.2 ⟨h.distinct, h.distinctAttributes⟩
  · exact nameRule_eq_nil_iff.2
      ⟨fun o ho => ⟨h.objectsNamed o ho, fun a ha => (h.attributes o ho a ha).named⟩, h.enumsNamed⟩
  · refine forAttributes_eq_nil_iff.2 fun o ho a ha => typeFindings_eq_nil_iff.2 ?_
    have ok := h.attributes o ho a ha
    exact ⟨ok.typed, ok.known, ok.single⟩
  · exact forAttributes_eq_nil_iff.2 fun o ho a ha =>
      termFindings_eq_nil_iff.2 (h.attributes o ho a ha).term
  · exact forAttributes_eq_nil_iff.2 fun o ho a ha =>
      xmlFindings_eq_nil_iff.2 (h.attributes o ho a ha).xml
  · exact enumerationRule_eq_nil_iff.2 h.inhabited

/-- Validation is sound and complete: a report is empty exactly for a well-formed model. -/
theorem isValid_iff_wellFormed (reading : Dialect.Reading) :
    (reportOf reading).isValid = true ↔ WellFormed reading :=
  ⟨wellFormed_of_isValid, isValid_of_wellFormed⟩

end Validation
end DocModel

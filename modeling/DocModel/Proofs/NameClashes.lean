import DocModel.Proofs.Dialect.Readings
import DocModel.Proofs.Rust.FieldNames
import DocModel.Proofs.TypeFiles
import DocModel.Proofs.Validation.WellFormed

/-!
# DocModel.Proofs.NameClashes

Which names of a model are written alike in Rust, Go and protocol buffers.

* A name is cut into words, and only the words are written: names with the same words clash;
* where words are put together without underscores, a word that begins with a digit belongs to the
  word before it, so that there names with the same runs clash;
* no others do (`names_apart_iff`). Nothing in the formats keeps clashing names apart, and no rule
  of the validator excludes them (`names_clash`).
-/

namespace DocModel
namespace Target

open Text Unicode Validation

/-! ## What is left of a name -/

def wordsOf (name : String) : List (List Char) := identifierWords name.toList

/-- The words of a name, where one that begins with a digit belongs to the word before it. -/
def runsOf (name : String) : List (List Char) := runs (wordsOf name)

/-- What a constant for a member is read back to. -/
def constantRuns (enumeration key : String) : List (List Char) :=
  runs (wordsOf enumeration ++ wordsOf key)

/-- What a value for a member is read back to: a member without words leaves an underscore. -/
def valueWords (enumeration key : String) : List (List Char) :=
  wordsOf enumeration ++ if wordsOf key = [] then [[]] else wordsOf key

/-- The members of the enumerations, some of them the same in every one. -/
def members (common : List String) (m : DataModel) : List (String × String) :=
  m.enums.flatMap fun e => (common ++ e.mappings.names).map (e.name, ·)

def MembersNamed (m : DataModel) : Prop :=
  ∀ e ∈ m.enums, ∀ key ∈ e.mappings.names, AttributeName key.toList

/-! ## When names are apart -/

/-- When no two types have the same name. -/
structure TypesApart (m : DataModel) : Prop where
  rust : (Rust.file m).typeNames.Nodup ↔ (m.typeNames.map runsOf).Nodup
  golang : (Golang.file m).typeNames.Nodup ↔ (m.typeNames.map runsOf).Nodup
  protobuf : (Protobuf.file m).typeNames.Nodup ↔ (m.typeNames.map runsOf).Nodup

/-- When no two fields of a type have the same name. -/
structure FieldsApart (m : DataModel) : Prop where
  rust : List.Forall₂
    (fun o fs => (fs.map (·.name)).Nodup ↔ (o.attributes.map fun a => wordsOf a.name).Nodup)
    m.objects (Rust.file m).fieldLists
  golang : List.Forall₂
    (fun o fs => (fs.map (·.name)).Nodup ↔ (o.attributes.map fun a => runsOf a.name).Nodup)
    m.objects (Golang.file m).fieldLists
  protobuf : List.Forall₂
    (fun o fs => (fs.map (·.name)).Nodup ↔ (o.attributes.map fun a => wordsOf a.name).Nodup)
    m.objects (Protobuf.file m).fieldLists

/-- When no two members have the same name: in Rust those of one enumeration, in Go and in protocol
buffers those of a file. -/
structure MembersApart (m : DataModel) : Prop where
  rust : List.Forall₂
    (fun e vs => (vs.map (·.name)).Nodup ↔ (e.mappings.names.map runsOf).Nodup)
    m.enums (Rust.file m).memberLists
  golang : ((Golang.file m).memberLists.flatten.map (·.name)).Nodup ↔
    ((members [] m).map fun x => constantRuns x.1 x.2).Nodup
  protobuf : ((Protobuf.file m).memberLists.flatten.map (·.name)).Nodup ↔
    ((members ["UNSPECIFIED"] m).map fun x => valueWords x.1 x.2).Nodup

/-- What two functions tell apart alike, lists of their values do. -/
theorem nodup_map_congr {α β γ : Type} {f : α → β} {g : α → γ} {items : List α}
    (same : ∀ a ∈ items, ∀ b ∈ items, (f a = f b ↔ g a = g b)) :
    (items.map f).Nodup ↔ (items.map g).Nodup := by
  rw [List.Nodup, List.Nodup, List.pairwise_map, List.pairwise_map]
  exact List.Pairwise.iff_of_mem fun ha hb => not_congr (same _ ha _ hb)

/-- What does not look at the place of an item does not see it. -/
theorem map_mapIdx_of_forall {α β γ : Type} {f : Nat → α → β} (g : β → γ) {h : α → γ}
    (same : ∀ i a, g (f i a) = h a) (items : List α) : (items.mapIdx f).map g = items.map h := by
  refine List.ext_getElem (by simp) fun i _ _ => ?_
  simp only [List.getElem_map, List.getElem_mapIdx, same]

theorem wordsOf_ne_nil {name : String} (h : DefinitionName name.toList) : wordsOf name ≠ [] := by
  obtain ⟨c, begun, letter⟩ := h.exists_head?
  obtain ⟨rest, same⟩ := List.head?_eq_some_iff.1 begun
  have other : c ≠ '_' := by
    rintro rfl
    exact absurd (isAlpha_iff.2 letter) (by decide)
  have kept : c ∈ (name.toList.dropWhile (· == '_')).head? := by
    rw [same, List.dropWhile_cons_of_neg (by simpa using other)]
    rfl
  have some := (head?_snakeCase_isLower (definitionName_wordChar h)).2 ⟨c, kept, letter⟩
  intro nothing
  rw [toList_snakeCase, ← wordsOf, nothing] at some
  exact absurd some (by decide)

/-! ## Types -/

theorem typesApart {m : DataModel} (named : ∀ name ∈ m.typeNames, DefinitionName name.toList) :
    TypesApart m := by
  have written : (m.typeNames.map pascalCase).Nodup ↔ (m.typeNames.map runsOf).Nodup :=
    nodup_map_congr fun a ha b hb =>
      pascalCase_inj (definitionName_wordChar (named a ha)) (definitionName_wordChar (named b hb))
  refine ⟨?_, ?_, ?_⟩
  · rw [Rust.file, TypeFile.typeNames_ofModel, written]
  · rw [Golang.file, TypeFile.typeNames_ofModel, written]
  · rw [Protobuf.file, TypeFile.typeNames_ofModel, written]

/-! ## Fields -/

theorem fieldsApart {m : DataModel}
    (named : ∀ o ∈ m.objects, ∀ a ∈ o.attributes, AttributeName a.name.toList) :
    FieldsApart m := by
  have word (o : Object) (ho : o ∈ m.objects) (a : Attribute) (ha : a ∈ o.attributes) :
      ∀ c ∈ a.name.toList, WordChar c := attributeName_wordChar (named o ho a ha)
  refine ⟨?_, ?_, ?_⟩
  · rw [Rust.file, TypeFile.fieldLists_ofModel, List.forall₂_map_right_iff, List.forall₂_same]
    intro o ho
    have names : (Rust.fields m o).map (·.name) = o.attributes.map (Rust.fieldName ·.name) := by
      rw [Rust.fields, List.map_map]
      rfl
    rw [names]
    exact nodup_map_congr fun a ha b hb => Rust.fieldName_inj (word o ho a ha) (word o ho b hb)
  · rw [Golang.file, TypeFile.fieldLists_ofModel, List.forall₂_map_right_iff, List.forall₂_same]
    intro o ho
    have names : (Golang.fields m o).map (·.name) = o.attributes.map (pascalCase ·.name) := by
      rw [Golang.fields, List.map_map]
      rfl
    rw [names]
    exact nodup_map_congr fun a ha b hb => pascalCase_inj (word o ho a ha) (word o ho b hb)
  · rw [Protobuf.file, TypeFile.fieldLists_ofModel, List.forall₂_map_right_iff, List.forall₂_same]
    intro o ho
    have names : (Protobuf.fields m o).map (·.name) = o.attributes.map (snakeCase ·.name) := by
      refine map_mapIdx_of_forall _ (fun i a => ?_) o.attributes
      rfl
    rw [names]
    exact nodup_map_congr fun a ha b hb => snakeCase_inj (word o ho a ha) (word o ho b hb)

/-! ## Members -/

theorem toList_constantName (member : String × String) :
    (pascalCase member.1 ++ pascalCase member.2).toList =
      (wordsOf member.1 ++ wordsOf member.2).flatMap capitalize := by
  rw [String.toList_append, toList_pascalCase, toList_pascalCase, List.flatMap_append]
  rfl

/-- A member with proper names, its own and that of its enumeration. -/
structure ProperMember (member : String × String) : Prop where
  enumeration : DefinitionName member.1.toList
  key : AttributeName member.2.toList

namespace ProperMember

variable {first second : String × String}

theorem enumeration_small (h : ProperMember first) : ∀ w ∈ wordsOf first.1, SmallWord w :=
  smallWord_identifierWords (definitionName_wordChar h.enumeration)

theorem key_small (h : ProperMember first) : ∀ w ∈ wordsOf first.2, SmallWord w :=
  smallWord_identifierWords (attributeName_wordChar h.key)

theorem constantName_inj (one : ProperMember first) (two : ProperMember second) :
    pascalCase first.1 ++ pascalCase first.2 = pascalCase second.1 ++ pascalCase second.2 ↔
      constantRuns first.1 first.2 = constantRuns second.1 second.2 := by
  rw [← String.toList_inj, toList_constantName, toList_constantName]
  exact flatMap_capitalize_inj
    (List.forall_mem_append.2 ⟨one.enumeration_small, one.key_small⟩)
    (List.forall_mem_append.2 ⟨two.enumeration_small, two.key_small⟩)

theorem toList_valueName (h : ProperMember first) :
    (Protobuf.valueName first.1 (screamingSnakeCase first.2)).toList =
      uppercase (joinWith ['_'] (valueWords first.1 first.2)) := by
  have key : joinWith ['_'] (if wordsOf first.2 = [] then [[]] else wordsOf first.2) =
      joinWith ['_'] (wordsOf first.2) := by
    split
    · next none => rw [none]; rfl
    · rfl
  have filled : (if wordsOf first.2 = [] then [[]] else wordsOf first.2) ≠ [] := by
    split
    · exact List.cons_ne_nil _ _
    · assumption
  rw [Protobuf.valueName, String.toList_append, String.toList_append, toList_screamingSnakeCase,
    toList_screamingSnakeCase, valueWords, joinWith_append (wordsOf_ne_nil h.enumeration) filled,
    key, uppercase_append, uppercase_append]
  rfl

theorem valueWords_small (h : ProperMember first) :
    valueWords first.1 first.2 ≠ [] ∧
      ∀ w ∈ valueWords first.1 first.2, ∀ c ∈ w, SmallChar c := by
  refine ⟨List.append_ne_nil_of_left_ne_nil (wordsOf_ne_nil h.enumeration) _, ?_⟩
  refine List.forall_mem_append.2 ⟨fun w hw => (h.enumeration_small w hw).small, ?_⟩
  split
  · exact List.forall_mem_singleton.2 (List.forall_mem_nil _)
  · exact fun w hw => (h.key_small w hw).small

theorem valueName_inj (one : ProperMember first) (two : ProperMember second) :
    Protobuf.valueName first.1 (screamingSnakeCase first.2) =
        Protobuf.valueName second.1 (screamingSnakeCase second.2) ↔
      valueWords first.1 first.2 = valueWords second.1 second.2 := by
  rw [← String.toList_inj, one.toList_valueName, two.toList_valueName]
  exact uppercase_joinWith_inj one.valueWords_small two.valueWords_small

end ProperMember

/-- Every list of members of a file is one for an enumeration, so that together they are one list
of all members. -/
theorem flatten_map_names {α : Type} (m : DataModel) (common : List String)
    (lists : Enumeration → List α) (name : α → String) (write : String → String → String)
    (written : ∀ e, (lists e).map name = (common ++ e.mappings.names).map (write e.name)) :
    ((m.enums.map lists).flatten.map name) =
      (members common m).map fun x => write x.1 x.2 := by
  rw [← List.flatMap_def, List.map_flatMap, members, List.map_flatMap]
  refine List.flatMap_congr fun e _ => ?_
  rw [written, List.map_map]
  rfl

theorem named_of_mem_members {m : DataModel} {common : List String}
    (enumsNamed : ∀ e ∈ m.enums, DefinitionName e.name.toList) (membersNamed : MembersNamed m)
    (commonNamed : ∀ key ∈ common, AttributeName key.toList) :
    ∀ x ∈ members common m, ProperMember x := by
  intro x hx
  obtain ⟨e, he, inside⟩ := List.mem_flatMap.1 hx
  obtain ⟨key, hkey, rfl⟩ := List.mem_map.1 inside
  exact ⟨enumsNamed e he, (List.mem_append.1 hkey).elim (commonNamed key) (membersNamed e he key)⟩

theorem membersApart {m : DataModel} (enumsNamed : ∀ e ∈ m.enums, DefinitionName e.name.toList)
    (membersNamed : MembersNamed m) : MembersApart m := by
  refine ⟨?_, ?_, ?_⟩
  · rw [Rust.file, TypeFile.memberLists_ofModel, List.forall₂_map_right_iff, List.forall₂_same]
    intro e he
    have names : (Rust.variants e).map (·.name) = e.mappings.names.map pascalCase := by
      rw [Rust.variants, List.map_map, Dictionary.names, List.map_map]
      rfl
    rw [names]
    exact nodup_map_congr fun a ha b hb =>
      pascalCase_inj (attributeName_wordChar (membersNamed e he a ha))
        (attributeName_wordChar (membersNamed e he b hb))
  · have named := named_of_mem_members enumsNamed membersNamed (List.forall_mem_nil _)
    rw [Golang.file, TypeFile.memberLists_ofModel,
      flatten_map_names m [] Golang.constants (·.name) fun enumeration key =>
        pascalCase enumeration ++ pascalCase key]
    · exact nodup_map_congr fun a ha b hb => (named a ha).constantName_inj (named b hb)
    · intro e
      rw [Golang.constants, List.map_map, List.nil_append, Dictionary.names, List.map_map]
      rfl
  · have unspecified : ∀ key ∈ ["UNSPECIFIED"], AttributeName key.toList :=
      List.forall_mem_singleton.2 (isAttributeName_iff.1 (by decide))
    have named := named_of_mem_members enumsNamed membersNamed unspecified
    rw [Protobuf.file, TypeFile.memberLists_ofModel,
      flatten_map_names m ["UNSPECIFIED"] Protobuf.enumValues (·.name) fun enumeration key =>
        Protobuf.valueName enumeration (screamingSnakeCase key)]
    · exact nodup_map_congr fun a ha b hb => (named a ha).valueName_inj (named b hb)
    · intro e
      -- the value zero is written as if it were a member of this name
      have kept : screamingSnakeCase "UNSPECIFIED" = "UNSPECIFIED" := by decide
      rw [Protobuf.enumValues, List.map_cons, List.singleton_append, List.map_cons, kept,
        Dictionary.names, List.map_map]
      refine congrArg _ (map_mapIdx_of_forall _ (fun i entry => ?_) e.mappings.entries)
      rfl

theorem membersNamed_of_parse {source : String} {reading : Dialect.Reading}
    (parsed : Dialect.parse source = .ok reading) : MembersNamed reading.model := by
  intro e he key hkey
  obtain ⟨entry, inside, rfl⟩ := List.mem_map.1 hkey
  exact (Dialect.members_of_parse parsed e he entry inside).writable.key

/-! ## Names that clash -/

/-- In all three formats the names of types, fields and members are apart exactly if no two of them
are made of the same words, or of the same runs. For members it is asked that they have proper
names, as they have in every document. -/
theorem names_apart_iff (reading : Dialect.Reading)
    (valid : (Validation.reportOf reading).isValid = true) :
    (Rust.printFile (Rust.file reading.model) = Rust.render reading.model ∧
      Golang.printFile (Golang.file reading.model) = Golang.render reading.model ∧
      Protobuf.printFile (Protobuf.file reading.model) = Protobuf.render reading.model) ∧
    TypesApart reading.model ∧ FieldsApart reading.model ∧
    (MembersNamed reading.model → MembersApart reading.model) ∧
    (∀ source, Dialect.parse source = .ok reading → MembersNamed reading.model) := by
  have formed := Validation.wellFormed_of_isValid valid
  have fieldsNamed : ∀ o ∈ reading.model.objects, ∀ a ∈ o.attributes,
      AttributeName a.name.toList := fun o ho a ha => (formed.attributes o ho a ha).named
  exact ⟨⟨Rust.printFile_file _, Golang.printFile_file _, Protobuf.printFile_file _⟩,
    typesApart formed.typesNamed, fieldsApart fieldsNamed, membersApart formed.enumsNamed,
    fun _ => membersNamed_of_parse⟩

/-- A valid model in which names of every sort clash. -/
def clashModel : DataModel where
  objects := [
    { name := "FooBar", attributes := [
      { name := "aB", dtypes := ["string"], xml := .ofElement "aB" },
      { name := "a_b", dtypes := ["string"], xml := .ofElement "a_b" }] },
    { name := "foo_bar", attributes := [
      { name := "x", dtypes := ["string"], xml := .ofElement "x" }] }]
  enums := [
    { name := "Color", mappings := { entries := [
      ("DarkRed", "dark red"), ("RED", "r"), ("UNSPECIFIED", "any"), ("red", "red")] } },
    { name := "ColorDark", mappings := { entries := [("Red", "dark red")] } }]

theorem isValid_clashModel :
    (Validation.reportOf { model := clashModel }).isValid = true := by
  refine Validation.isValid_of_rules (.inl (by simp [clashModel])) ?_ ?_ <;> decide

theorem membersNamed_clashModel : MembersNamed clashModel := by
  have named : ∀ e ∈ clashModel.enums, ∀ key ∈ e.mappings.names,
      isAttributeName key.toList = true := by decide
  exact fun e he key hkey => isAttributeName_iff.1 (named e he key hkey)

theorem names_apart_iff_clashModel :
    (Validation.reportOf { model := clashModel }).isValid = true ∧ MembersNamed clashModel ∧
    (Rust.printFile (Rust.file clashModel) = Rust.render clashModel ∧
      Golang.printFile (Golang.file clashModel) = Golang.render clashModel ∧
      Protobuf.printFile (Protobuf.file clashModel) = Protobuf.render clashModel) ∧
    TypesApart clashModel ∧ FieldsApart clashModel ∧
    (MembersNamed clashModel → MembersApart clashModel) ∧
    (∀ source, Dialect.parse source = .ok { model := clashModel } → MembersNamed clashModel) :=
  ⟨isValid_clashModel, membersNamed_clashModel,
    names_apart_iff { model := clashModel } isValid_clashModel⟩

/-- A digit does not keep names apart that are written without underscores. -/
example : wordsOf "Item_2" ≠ wordsOf "Item2" ∧ runsOf "Item_2" = runsOf "Item2" := by decide

/-- Names clash in all three formats: of types, of fields, of the members of one enumeration in
Rust, and of the members of a file in Go and in protocol buffers. -/
theorem names_clash :
    (Validation.reportOf { model := clashModel }).isValid = true ∧
    (¬ (Rust.file clashModel).typeNames.Nodup ∧ ¬ (Golang.file clashModel).typeNames.Nodup ∧
      ¬ (Protobuf.file clashModel).typeNames.Nodup) ∧
    (¬ (∀ fs ∈ (Rust.file clashModel).fieldLists, (fs.map (·.name)).Nodup) ∧
      ¬ (∀ fs ∈ (Golang.file clashModel).fieldLists, (fs.map (·.name)).Nodup) ∧
      ¬ (∀ fs ∈ (Protobuf.file clashModel).fieldLists, (fs.map (·.name)).Nodup)) ∧
    ¬ (∀ vs ∈ (Rust.file clashModel).memberLists, (vs.map (·.name)).Nodup) ∧
    ¬ ((Golang.file clashModel).memberLists.flatten.map (·.name)).Nodup ∧
    ¬ ((Protobuf.file clashModel).memberLists.flatten.map (·.name)).Nodup := by
  refine ⟨isValid_clashModel, ?_, ?_, ?_⟩ <;> decide

end Target
end DocModel

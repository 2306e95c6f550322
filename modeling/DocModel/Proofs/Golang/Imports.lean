import DocModel.Proofs.Agreement
import DocModel.Proofs.TypeFiles
import DocModel.Proofs.Words

/-!
# DocModel.Proofs.Golang.Imports

When a file in Go imports the package for time, and when the types of its fields need it.

* The import looks at all types of an attribute, a field has only the first of them;
* so whatever is needed is imported (`time_imports`), but a package may be imported in vain:
  exactly if points in time occur only behind the first type. Go refuses such a file.
-/

namespace DocModel
namespace Target.Golang

open Text Validation

variable {m : DataModel} {a : Attribute}

/-! ## Types of fields -/

/-- A type of points in time that no definition hides. -/
def IsTime (m : DataModel) (dtype : String) : Prop :=
  m.classify dtype = .primitive .date ∨ m.classify dtype = .primitive .dateTime

/-- A text in which the type of points in time occurs. -/
def MentionsTime (type : String) : Prop := timeType.toList <:+: type.toList

/-- The types of the fields that a file defines. -/
def fieldTypes (f : TypeFile Head Field Constant) : List String :=
  f.fieldLists.flatten.map (·.type)

theorem fieldTypes_file (m : DataModel) :
    fieldTypes (file m) = m.allAttributes.map (fieldType m) := by
  rw [fieldTypes, file, TypeFile.fieldLists_ofModel, DataModel.allAttributes, List.map_flatMap,
    ← List.flatMap_def, List.map_flatMap]
  refine List.flatMap_congr fun o _ => ?_
  rw [fields, List.map_map]
  rfl

theorem wordChar_ne_dot {c : Char} (h : WordChar c) : c ≠ '.' :=
  h.of_ascii (p := (· ≠ '.')) (by decide)

theorem importsTime_iff :
    importsTime m = true ↔ ∃ a ∈ m.allAttributes, ∃ dtype ∈ a.dtypes, IsTime m dtype := by
  rw [importsTime, DataModel.mentionsPrimitive, List.any_eq_true]
  refine exists_congr fun a => and_congr_right fun _ => ?_
  rw [List.any_eq_true]
  refine exists_congr fun dtype => and_congr_right fun _ => ?_
  rw [IsTime]
  cases m.classify dtype with
  | primitive p => cases p <;> decide
  | object name => simp
  | enumeration name => simp
  | unknown name => simp

theorem fieldType_eq (m : DataModel) (a : Attribute) : ∃ front ∈ ["[]", "*", ""],
    fieldType m a = front ++ (a.held m primitiveType "interface\x7b\x7d").type := by
  rw [fieldType]
  split
  · exact ⟨"[]", by decide, rfl⟩
  · split
    · exact ⟨"*", by decide, rfl⟩
    · exact ⟨"", by decide, String.empty_append.symm⟩

/-- Definitions have names without a dot, and of the primitive types only those of points in time
are written with one. -/
theorem isTime_of_dot (known : ∀ dtype ∈ a.dtypes, ∀ name, m.classify dtype ≠ .unknown name)
    (named : ∀ name ∈ m.typeNames, DefinitionName name.toList)
    (dot : '.' ∈ (a.held m primitiveType "interface{}").type.toList) :
    ∃ dtype ∈ a.dtypes.head?, IsTime m dtype := by
  have plain (name : String) (mem : name ∈ m.typeNames) : '.' ∉ (pascalCase name).toList := by
    intro inside
    have word := wordChar_pascalCase (definitionName_wordChar (named name mem)) '.' inside
    exact wordChar_ne_dot word rfl
  rw [Attribute.held] at dot
  cases first : a.primaryType? with
  | none => simp [first, Held.type] at dot
  | some dtype =>
    rw [first] at dot
    dsimp only at dot
    refine ⟨dtype, first, ?_⟩
    cases kind : m.classify dtype with
    | primitive p =>
      rw [kind] at dot
      -- the names of the other primitive types are closed texts without a dot
      cases p <;> first | exact .inl kind | exact .inr kind | exact absurd dot (by decide)
    | object name =>
      rw [kind] at dot
      obtain ⟨rfl, o, found⟩ := DataModel.classify_eq_object kind
      have mem : name ∈ m.typeNames :=
        List.mem_append_left _ (DataModel.mem_names_of_object? found)
      exact absurd dot (plain name mem)
    | enumeration name =>
      rw [kind] at dot
      obtain ⟨rfl, -, e, found⟩ := DataModel.classify_eq_enumeration kind
      have mem : name ∈ m.typeNames :=
        List.mem_append_right _ (DataModel.mem_names_of_enumeration? found)
      exact absurd dot (plain name mem)
    | unknown name => exact absurd kind (known dtype (List.mem_of_mem_head? first) name)

/-- The names of the types of a valid model are of use, and each is known. -/
theorem mentionsTime_iff (known : ∀ dtype ∈ a.dtypes, ∀ name, m.classify dtype ≠ .unknown name)
    (named : ∀ name ∈ m.typeNames, DefinitionName name.toList) :
    MentionsTime (fieldType m a) ↔ ∃ dtype ∈ a.dtypes.head?, IsTime m dtype := by
  obtain ⟨front, mem, same⟩ := fieldType_eq m a
  rw [MentionsTime, same, String.toList_append]
  constructor
  · intro occurs
    have dot : '.' ∈ front.toList ++ (a.held m primitiveType "interface\x7b\x7d").type.toList :=
      occurs.mem (by decide)
    have bare : ∀ front ∈ ["[]", "*", ""], '.' ∉ front.toList := by decide
    exact isTime_of_dot known named ((List.mem_append.1 dot).resolve_left (bare front mem))
  · rintro ⟨dtype, first, time⟩
    have held : (a.held m primitiveType "interface\x7b\x7d").type = timeType := by
      rw [Attribute.held, Attribute.primaryType?, Option.mem_def.1 first]
      rcases time with kind | kind <;> simp only [kind, Held.type, primitiveType]
    rw [held]
    exact (List.suffix_append _ _).isInfix

/-! ## Imports -/

/-- Some attribute has a type of points in time. -/
def TimeAmong (m : DataModel) : Prop :=
  ∃ a ∈ m.allAttributes, ∃ dtype ∈ a.dtypes, IsTime m dtype

/-- Some attribute has a type of points in time as the first of its types. -/
def TimeFirst (m : DataModel) : Prop :=
  ∃ a ∈ m.allAttributes, ∃ dtype ∈ a.dtypes.head?, IsTime m dtype

theorem TimeFirst.among (h : TimeFirst m) : TimeAmong m := by
  obtain ⟨a, ha, dtype, first, time⟩ := h
  exact ⟨a, ha, dtype, List.mem_of_mem_head? first, time⟩

theorem import_iff : "time" ∈ (file m).head.imports ↔ TimeAmong m := by
  rw [TimeAmong, ← importsTime_iff, file, TypeFile.ofModel]
  cases importsTime m <;> simp

theorem mention_iff {reading : Dialect.Reading} (h : WellFormed reading) :
    (∃ type ∈ fieldTypes (file reading.model), MentionsTime type) ↔ TimeFirst reading.model := by
  rw [fieldTypes_file, TimeFirst]
  simp only [List.mem_map, exists_exists_and_eq_and]
  refine exists_congr fun a => and_congr_right fun ha => mentionsTime_iff ?_ h.typesNamed
  obtain ⟨o, ho, inside⟩ := List.mem_flatMap.1 ha
  exact DataModel.typed_of_wellFormed h o ho a inside

/-- A file imports the package for time exactly if some attribute has a type of points in time, and
uses it exactly if some attribute has one as its first. So the import is there exactly if it is used
unless such types stand only behind others. -/
theorem time_imports (reading : Dialect.Reading)
    (valid : (Validation.reportOf reading).isValid = true) :
    printFile (file reading.model) = render reading.model ∧
    ("time" ∈ (file reading.model).head.imports ↔ TimeAmong reading.model) ∧
    ((∃ type ∈ fieldTypes (file reading.model), MentionsTime type) ↔ TimeFirst reading.model) ∧
    (("time" ∈ (file reading.model).head.imports ↔
        ∃ type ∈ fieldTypes (file reading.model), MentionsTime type) ↔
      (TimeAmong reading.model → TimeFirst reading.model)) := by
  have used := mention_iff (Validation.wellFormed_of_isValid valid)
  refine ⟨printFile_file _, import_iff, used, ?_⟩
  rw [import_iff, used]
  exact ⟨Iff.mp, fun first => ⟨first, TimeFirst.among⟩⟩

/-- An event at a point in time, which may be given in another way. -/
def eventModel (dtypes : List String) : DataModel where
  objects := [{ name := "Event", attributes := [{ name := "at", dtypes, xml := .ofElement "at" }] }]

theorem isValid_eventModel {dtypes : List String}
    (h : dtypes = ["datetime", "string"] ∨ dtypes = ["string", "date"]) :
    (Validation.reportOf { model := eventModel dtypes }).isValid = true := by
  refine Validation.isValid_of_rules (.inl (by simp [eventModel])) ?_ ?_ <;>
    rcases h with rfl | rfl <;> decide

theorem time_imports_eventModel :
    (Validation.reportOf { model := eventModel ["datetime", "string"] }).isValid = true ∧
    printFile (file (eventModel ["datetime", "string"])) =
      render (eventModel ["datetime", "string"]) ∧
    ("time" ∈ (file (eventModel ["datetime", "string"])).head.imports ↔
      TimeAmong (eventModel ["datetime", "string"])) ∧
    ((∃ type ∈ fieldTypes (file (eventModel ["datetime", "string"])), MentionsTime type) ↔
      TimeFirst (eventModel ["datetime", "string"])) ∧
    (("time" ∈ (file (eventModel ["datetime", "string"])).head.imports ↔
        ∃ type ∈ fieldTypes (file (eventModel ["datetime", "string"])), MentionsTime type) ↔
      (TimeAmong (eventModel ["datetime", "string"]) →
        TimeFirst (eventModel ["datetime", "string"]))) :=
  have valid := isValid_eventModel (.inl rfl)
  ⟨valid, time_imports { model := eventModel ["datetime", "string"] } valid⟩

example : fieldTypes (file (eventModel ["datetime", "string"])) = ["*time.Time"] := by decide

/-- The package is imported for the second of two types, and no field has it. -/
theorem time_unused :
    (Validation.reportOf { model := eventModel ["string", "date"] }).isValid = true ∧
    "time" ∈ (file (eventModel ["string", "date"])).head.imports ∧
    ¬ ∃ type ∈ fieldTypes (file (eventModel ["string", "date"])), MentionsTime type := by
  refine ⟨isValid_eventModel (.inr rfl), by decide, ?_⟩
  rintro ⟨type, mem, occurs⟩
  have types : fieldTypes (file (eventModel ["string", "date"])) = ["*string"] := by decide
  rw [types, List.mem_singleton] at mem
  subst mem
  exact absurd (occurs.mem (show '.' ∈ timeType.toList by decide)) (by decide)

end Target.Golang
end DocModel

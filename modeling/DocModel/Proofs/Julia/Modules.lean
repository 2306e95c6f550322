import DocModel.Proofs.Entries
import DocModel.Proofs.Splitting
import DocModel.Proofs.Validation.WellFormed
import DocModel.Target.Julia
import Mathlib.Data.List.Nodup
import Mathlib.Data.List.Perm.Basic

/-!
# DocModel.Proofs.Julia.Modules

Modules of Julia as trees of definitions, and the names that they introduce.

* All definitions of a module share its names. An enumeration introduces its members as well, and
  its dictionary is a constant of its own;
* the validator keeps the names of types apart, and the members of one enumeration. `NamesApart` is
  what else has to be different;
* `names_nodup_iff` says that nothing more is needed, `names_shared` that valid models may break it.
-/

namespace DocModel
namespace Target.Julia

open Text Unicode Validation
open scoped List

/-! ## Modules as trees -/

/-- A definition in a module. -/
inductive Definition where
  | record (docstring name : String) (fields : List String)
  | enumeration (docstring name : String) (members : List String)
  | dictionary (name type : String) (entries : List (String × String))

/-- The names that a definition introduces. -/
def Definition.names : Definition → List String
  | record _ name _ => [name]
  | enumeration _ name members => name :: members
  | dictionary name _ _ => [name]

def Definition.print : Definition → String
  | record docstring name fields =>
    unlines (docLines docstring ++ ("Base.@kwdef mutable struct " ++ name) :: fields ++ ["end"])
  | enumeration docstring name members =>
    unlines (docLines docstring ++ ["@enum " ++ name ++ " " ++ String.intercalate " " members])
  | dictionary name type entries =>
    unlines
      (["const " ++ name ++ " = " ++ applied "Dict" [type, "String"] ++ "("]
        ++ (entries.map fun entry => "    " ++ entry.1 ++ " => " ++ literal entry.2 ++ ",")
        ++ [")"])

/-- A module: its name, what it uses and exports, and what it defines. -/
structure Module where
  name : String
  usings : List String
  exports : List String
  definitions : List Definition

namespace Module

def names (f : Module) : List String := f.definitions.flatMap (·.names)

def print (f : Module) : String :=
  withDefinitions
    ("module " ++ f.name ++ "\n"
      ++ String.join (f.usings.map fun package => "\nusing " ++ package ++ "\n")
      ++ if f.exports.isEmpty then ""
        else "\nexport " ++ String.intercalate ", " f.exports ++ "\n")
    (f.definitions.map (·.print) ++ ["end # module " ++ f.name ++ "\n"])

end Module

def enumDefinitions (e : Enumeration) : List Definition :=
  [.enumeration e.docstring e.name e.mappings.names,
    .dictionary (dictionaryName e) e.name e.mappings.entries]

def objectDefinition (m : DataModel) (o : Object) : Definition :=
  .record o.docstring o.name (o.attributes.map (fieldLine m))

def moduleOf (m : DataModel) : Module where
  name := moduleName m
  usings := if m.mentionsPrimitive [.date, .dateTime] then ["Dates"] else []
  exports := m.typeNames
  definitions := m.enums.flatMap enumDefinitions ++ m.objects.map (objectDefinition m)

theorem print_objectDefinition (m : DataModel) (o : Object) :
    (objectDefinition m o).print = renderObject m o := rfl

theorem print_enumDefinitions (e : Enumeration) :
    String.join ((enumDefinitions e).map fun d => "\n" ++ d.print) =
      "\n" ++ renderEnumeration e := by
  have lines :
      docLines e.docstring
        ++ ["@enum " ++ e.name ++ " " ++ String.intercalate " " e.mappings.names, "",
            "const " ++ dictionaryName e ++ " = " ++ applied "Dict" [e.name, "String"] ++ "("]
        ++ (e.mappings.entries.map fun entry =>
            "    " ++ entry.1 ++ " => " ++ literal entry.2 ++ ",")
        ++ [")"] =
      (docLines e.docstring
        ++ ["@enum " ++ e.name ++ " " ++ String.intercalate " " e.mappings.names])
        ++ "" ::
          (["const " ++ dictionaryName e ++ " = " ++ applied "Dict" [e.name, "String"] ++ "("]
            ++ (e.mappings.entries.map fun entry =>
                "    " ++ entry.1 ++ " => " ++ literal entry.2 ++ ",")
            ++ [")"]) := by
    simp only [List.append_assoc, List.cons_append, List.nil_append]
  rw [renderEnumeration, lines, unlines_append, unlines_cons]
  simp [enumDefinitions, Definition.print, String.append_assoc]

theorem print_moduleOf (m : DataModel) : (moduleOf m).print = render m := by
  have head : "module " ++ (moduleOf m).name ++ "\n"
      ++ String.join ((moduleOf m).usings.map fun package => "\nusing " ++ package ++ "\n")
      ++ (if (moduleOf m).exports.isEmpty then ""
        else "\nexport " ++ String.intercalate ", " (moduleOf m).exports ++ "\n") = header m := by
    rw [header, moduleOf]
    cases m.mentionsPrimitive [.date, .dateTime] <;> rfl
  have enums (es : List Enumeration) :
      String.join (((es.flatMap enumDefinitions).map (·.print)).map ("\n" ++ ·)) =
        String.join ((es.map renderEnumeration).map ("\n" ++ ·)) := by
    induction es with
    | nil => rfl
    | cons e rest ih =>
      rw [List.flatMap_cons, List.map_append, List.map_append, String.join_append, ih, List.map_map,
        List.map_cons, List.map_cons, String.join_cons, ← print_enumDefinitions]
      rfl
  have objects : (m.objects.map (objectDefinition m)).map (·.print) =
      m.objects.map (renderObject m) := by
    rw [List.map_map]
    exact List.map_congr_left fun o _ => print_objectDefinition m o
  have definitions : (moduleOf m).definitions.map (·.print) =
      (m.enums.flatMap enumDefinitions).map (·.print) ++ m.objects.map (renderObject m) := by
    rw [moduleOf, List.map_append, objects]
  rw [Module.print, head, definitions, render, withDefinitions, withDefinitions, List.map_append,
    List.map_append, String.join_append, String.join_append, enums, ← String.join_append,
    ← String.join_append, ← List.map_append, ← List.map_append]
  rfl

/-! ## Names that are introduced -/

def allMembers (m : DataModel) : List String := m.enums.flatMap (·.mappings.names)

/-- The names that have to be different beside those that the validator keeps apart. -/
structure NamesApart (m : DataModel) : Prop where
  /-- No member belongs to two enumerations. -/
  members : m.enums.Pairwise fun e f => e.mappings.names.Disjoint f.mappings.names
  /-- No member has the name of a type. -/
  types : m.typeNames.Disjoint (allMembers m)
  /-- The names of enumerations differ in more than the case of letters. -/
  cases : m.enums.Pairwise fun e f => equalsIgnoringCase e.name f.name = false
  /-- No dictionary has the name of a type or of a member. -/
  dictionaries : ∀ e ∈ m.enums, dictionaryName e ∉ m.typeNames ∧ dictionaryName e ∉ allMembers m

/-- The names of a module are those of its types, its members and its dictionaries. -/
theorem names_moduleOf_perm (m : DataModel) :
    (moduleOf m).names.Perm (m.typeNames ++ allMembers m ++ m.enums.map dictionaryName) := by
  have enums : (m.enums.flatMap enumDefinitions).flatMap (·.names) =
      m.enums.flatMap fun e => [e.name] ++ (e.mappings.names ++ [dictionaryName e]) := by
    rw [List.flatMap_assoc]
    rfl
  have objects : (m.objects.map (objectDefinition m)).flatMap (·.names) =
      m.objects.map (·.name) := by
    rw [List.flatMap_map, List.map_eq_flatMap]
    rfl
  have inner : (m.enums.flatMap fun e => e.mappings.names ++ [dictionaryName e]).Perm
      (allMembers m ++ m.enums.map dictionaryName) := by
    rw [List.map_eq_flatMap]
    exact (List.flatMap_append_perm m.enums (·.mappings.names) ([dictionaryName ·])).symm
  have outer : (m.enums.flatMap fun e => [e.name] ++ (e.mappings.names ++ [dictionaryName e])).Perm
      (m.enums.map (·.name) ++ (allMembers m ++ m.enums.map dictionaryName)) := by
    rw [List.map_eq_flatMap (f := Enumeration.name)]
    exact (List.flatMap_append_perm m.enums ([Enumeration.name ·]) _).symm.trans
      (inner.append_left _)
  rw [Module.names, moduleOf, List.flatMap_append, enums, objects, DataModel.typeNames]
  calc (m.enums.flatMap fun e => [e.name] ++ (e.mappings.names ++ [dictionaryName e]))
          ++ m.objects.map (·.name)
    _ ~ m.objects.map (·.name)
          ++ m.enums.flatMap fun e => [e.name] ++ (e.mappings.names ++ [dictionaryName e]) :=
        List.perm_append_comm
    _ ~ m.objects.map (·.name)
          ++ (m.enums.map (·.name) ++ (allMembers m ++ m.enums.map dictionaryName)) :=
        outer.append_left _
    _ = m.objects.map (·.name) ++ m.enums.map (·.name) ++ allMembers m
          ++ m.enums.map dictionaryName := by simp only [List.append_assoc]

/-! ## Names of dictionaries -/

theorem map_toUpper_eq_iff {first second : List Char} (one : ∀ c ∈ first, WordChar c)
    (two : ∀ c ∈ second, WordChar c) :
    first.map Char.toUpper = second.map Char.toUpper ↔
      first.map Char.toLower = second.map Char.toLower := by
  have up {c : Char} (hc : WordChar c) : c.toLower.toUpper = c.toUpper :=
    hc.of_ascii (p := fun c => c.toLower.toUpper = c.toUpper) (by decide)
  have down {c : Char} (hc : WordChar c) : c.toUpper.toLower = c.toLower :=
    hc.of_ascii (p := fun c => c.toUpper.toLower = c.toLower) (by decide)
  have ups {text : List Char} (h : ∀ c ∈ text, WordChar c) :
      (text.map Char.toLower).map Char.toUpper = text.map Char.toUpper := by
    rw [List.map_map]
    exact List.map_congr_left fun c hc => up (h c hc)
  have downs {text : List Char} (h : ∀ c ∈ text, WordChar c) :
      (text.map Char.toUpper).map Char.toLower = text.map Char.toLower := by
    rw [List.map_map]
    exact List.map_congr_left fun c hc => down (h c hc)
  constructor
  · intro same
    rw [← downs one, same, downs two]
  · intro same
    rw [← ups one, same, ups two]

theorem uppercase_wordChars {text : List Char} (h : ∀ c ∈ text, WordChar c) :
    uppercase text = text.map Char.toUpper := by
  rw [uppercase, List.map_eq_flatMap]
  exact List.flatMap_congr fun c hc => if_pos (wordChar_bounds (h c hc)).2

/-- Two dictionaries have the same name exactly if their enumerations differ in case only. -/
theorem dictionaryName_inj {e f : Enumeration} (he : DefinitionName e.name.toList)
    (hf : DefinitionName f.name.toList) :
    dictionaryName e = dictionaryName f ↔ equalsIgnoringCase e.name f.name = true := by
  have one := definitionName_wordChar he
  have two := definitionName_wordChar hf
  have chars {f : List Char → List Char} {a b : String} :
      onChars f a = onChars f b ↔ f a.toList = f b.toList := String.ofList_inj
  rw [dictionaryName, dictionaryName, String.append_left_inj, chars, uppercase_wordChars one,
    uppercase_wordChars two, map_toUpper_eq_iff one two, equalsIgnoringCase, beq_iff_eq,
    asciiLowercase, asciiLowercase, chars]

theorem nodup_dictionaryNames_iff {es : List Enumeration}
    (named : ∀ e ∈ es, DefinitionName e.name.toList) :
    (es.map dictionaryName).Nodup ↔
      es.Pairwise fun e f => equalsIgnoringCase e.name f.name = false := by
  rw [List.Nodup, List.pairwise_map]
  refine List.Pairwise.iff_of_mem fun he hf => ?_
  rw [Ne, dictionaryName_inj (named _ he) (named _ hf), Bool.not_eq_true]

/-! ## When names are apart -/

theorem nodup_allMembers_iff (m : DataModel) :
    (allMembers m).Nodup ↔
      m.enums.Pairwise fun e f => e.mappings.names.Disjoint f.mappings.names := by
  have own : ∀ e ∈ m.enums, e.mappings.names.Nodup := fun e _ =>
    List.pairwise_map.2 (e.mappings.ascending.imp fun less => String.ne_of_lt less)
  rw [allMembers, List.nodup_flatMap, and_iff_right own]

theorem disjoint_dictionaryNames_iff (m : DataModel) :
    (m.typeNames ++ allMembers m).Disjoint (m.enums.map dictionaryName) ↔
      ∀ e ∈ m.enums, dictionaryName e ∉ m.typeNames ∧ dictionaryName e ∉ allMembers m := by
  rw [List.disjoint_comm]
  simp only [List.Disjoint, List.forall_mem_map, List.mem_append, imp_false, not_or]

/-- Printing the tree of a module gives its text, and the names that the module of a valid model
introduces are different exactly if the model keeps its members, types and dictionaries apart. -/
theorem names_nodup_iff (reading : Dialect.Reading)
    (valid : (Validation.reportOf reading).isValid = true) :
    (moduleOf reading.model).print = render reading.model ∧
      ((moduleOf reading.model).names.Nodup ↔ NamesApart reading.model) := by
  have formed := Validation.wellFormed_of_isValid valid
  have types : reading.model.typeNames.Nodup := formed.distinct
  refine ⟨print_moduleOf _, ?_⟩
  rw [(names_moduleOf_perm _).nodup_iff, List.nodup_append', List.nodup_append',
    nodup_allMembers_iff, nodup_dictionaryNames_iff formed.enumsNamed, and_iff_right types,
    disjoint_dictionaryNames_iff]
  constructor
  · rintro ⟨⟨members, types⟩, cases, dictionaries⟩
    exact ⟨members, types, cases, dictionaries⟩
  · rintro ⟨members, types, cases, dictionaries⟩
    exact ⟨⟨members, types⟩, cases, dictionaries⟩

/-- Two enumerations, whose members are different, and an object. -/
def signalModel : DataModel where
  objects := [
    { name := "Signal", attributes := [
      { name := "color", dtypes := ["Color"], xml := .ofElement "color" },
      { name := "shape", dtypes := ["Shape"], xml := .ofElement "shape" }] }]
  enums := [
    { name := "Color", mappings := { entries := [("GREEN", "green"), ("RED", "red")] } },
    { name := "Shape", mappings := { entries := [("ARROW", "arrow"), ("DISC", "disc")] } }]

theorem isValid_signalModel :
    (Validation.reportOf { model := signalModel }).isValid = true := by
  refine Validation.isValid_of_rules (.inl (by simp [signalModel])) ?_ ?_ <;> decide

theorem names_nodup_iff_signalModel :
    (Validation.reportOf { model := signalModel }).isValid = true ∧
    (moduleOf signalModel).print = render signalModel ∧
      ((moduleOf signalModel).names.Nodup ↔ NamesApart signalModel) :=
  ⟨isValid_signalModel, names_nodup_iff { model := signalModel } isValid_signalModel⟩

example : (moduleOf signalModel).names = ["Color", "GREEN", "RED", "COLOR_VALUES", "Shape", "ARROW",
    "DISC", "SHAPE_VALUES", "Signal"] := by decide

/-- A document with one member in two enumerations. -/
def sharedMember : String :=
  "### Apple\n\n```\nRED = \"r\"\n```\n\n### Car\n\n```\nRED = \"s\"\n```\n"

/-- The document is valid, and its module introduces the member twice. -/
theorem names_shared :
    (Dialect.parse sharedMember).map (fun reading =>
        ((Validation.reportOf reading).isValid, (moduleOf reading.model).names)) =
      .ok (true, ["Apple", "RED", "APPLE_VALUES", "Car", "RED", "CAR_VALUES"]) ∧
    ¬ ["Apple", "RED", "APPLE_VALUES", "Car", "RED", "CAR_VALUES"].Nodup := by
  refine ⟨?_, by decide⟩
  -- the report sorts the definitions, which nothing but its lemmas evaluates
  have valid (reading : Dialect.Reading) := Bool.eq_iff_iff.2
    ((@isValid_iff_rules reading).trans decide_eq_true_iff.symm)
  simp only [valid]
  decide +kernel

end Target.Julia
end DocModel

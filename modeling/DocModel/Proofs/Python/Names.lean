import DocModel.Dialect.Reading
import DocModel.Proofs.Python.Classes
import DocModel.Proofs.Python.StringLiterals
import DocModel.Proofs.Validation.WellFormed
import DocModel.Validation.Report
import Mathlib.Data.List.Nodup

/-!
# DocModel.Proofs.Python.Names

The names of fields and members in the classes of Python.

* An underscore makes a name of a keyword, and no other keyword (`identifier_not_reserved`), but
  this name may be that of another field: `identifier_inj` says that names become the same in no
  other way;
* in a class that checks, the alias of a field is read back as the name of its attribute
  (`wireName?_declarationOf`);
* `escaped_names_distinct_iff` says when the names in the classes of a valid model are different,
  and `escaped_names_repeated` that they need not be.
-/

namespace DocModel
namespace Target.Python

open Text Validation

/-! ## Keywords -/

/-- The keywords of the language: constants, then those in expressions, of control flow, of
exceptions, and those that declare something. -/
def reserved : List String :=
  ["False", "None", "True"]
    ++ ["and", "await", "in", "is", "lambda", "not", "or", "yield"]
    ++ ["break", "continue", "elif", "else", "for", "if", "pass", "return", "while"]
    ++ ["as", "assert", "except", "finally", "raise", "try", "with"]
    ++ ["async", "class", "def", "del", "from", "global", "import", "nonlocal"]

theorem mem_keywords_iff {name : String} : name ∈ keywords ↔ name ∈ reserved := by
  have all : (∀ k ∈ keywords, k ∈ reserved) ∧ ∀ k ∈ reserved, k ∈ keywords := by decide
  exact ⟨all.1 name, all.2 name⟩

theorem identifier_of_reserved {name : String} (h : name ∈ reserved) :
    identifier name = name ++ "_" :=
  if_pos (List.contains_iff_mem.2 (mem_keywords_iff.2 h))

theorem identifier_of_other {name : String} (h : name ∉ reserved) : identifier name = name :=
  if_neg fun mem => h (mem_keywords_iff.1 (List.contains_iff_mem.1 mem))

theorem underscored_notMem_reserved : ∀ k ∈ reserved, k ++ "_" ∉ reserved := by decide

theorem identifier_not_reserved (name : String) : identifier name ∉ reserved := by
  by_cases h : name ∈ reserved
  · rw [identifier_of_reserved h]
    exact underscored_notMem_reserved name h
  · rw [identifier_of_other h]
    exact h

theorem ne_append_underscore (name : String) : name ≠ name ++ "_" := by
  intro same
  have lengths := congrArg String.length same
  have one : "_".length = 1 := rfl
  rw [String.length_append, one] at lengths
  omega

theorem identifier_eq_self_iff {name : String} : identifier name = name ↔ name ∉ reserved := by
  refine ⟨fun same h => ?_, identifier_of_other⟩
  rw [identifier_of_reserved h] at same
  exact ne_append_underscore name same.symm

/-- Two names are written alike exactly if they are the same or one of them is a keyword, and the
other one this keyword with an underscore. -/
theorem identifier_inj {first second : String} :
    identifier first = identifier second ↔
      first = second ∨ (first ∈ reserved ∧ second = first ++ "_") ∨
        (second ∈ reserved ∧ first = second ++ "_") := by
  -- a keyword gets longer by its underscore, and never becomes another keyword
  by_cases one : first ∈ reserved <;> by_cases two : second ∈ reserved
  · have left : second ≠ first ++ "_" := fun same =>
      underscored_notMem_reserved first one (same ▸ two)
    have right : first ≠ second ++ "_" := fun same =>
      underscored_notMem_reserved second two (same ▸ one)
    rw [identifier_of_reserved one, identifier_of_reserved two, String.append_left_inj]
    simp [left, right]
  · have apart : first ≠ second := fun same => two (same ▸ one)
    rw [identifier_of_reserved one, identifier_of_other two]
    simp [one, two, apart, eq_comm]
  · have apart : first ≠ second := fun same => one (same ▸ two)
    rw [identifier_of_other one, identifier_of_reserved two]
    simp [one, two, apart]
  · rw [identifier_of_other one, identifier_of_other two]
    simp [one, two]

/-! ## Names of a class -/

/-- No keyword among some names comes with its escaped form. -/
def KeywordsApart (names : List String) : Prop := ∀ k ∈ reserved, k ∈ names → k ++ "_" ∉ names

/-- Names that are written for others: none is a keyword, and they are different exactly if no
keyword comes with its escaped form. -/
structure Escaped (source written : List String) : Prop where
  distinct : written.Nodup ↔ KeywordsApart source
  legal : ∀ name ∈ written, name ∉ reserved

/-- The escaped form of a keyword is the one name that may be there already. -/
theorem escaped_of_perm {source written : List String} (apart : source.Nodup)
    (h : written.Perm (source.map identifier)) : Escaped source written where
  distinct := by
    rw [h.nodup_iff, List.nodup_map_iff_inj_on apart]
    constructor
    · intro inj k keyword mem other
      have same := inj k mem _ other (identifier_inj.2 (.inr (.inl ⟨keyword, rfl⟩)))
      exact ne_append_underscore k same
    · intro free first hf second hs same
      rcases identifier_inj.1 same with same | ⟨keyword, rfl⟩ | ⟨keyword, rfl⟩
      · exact same
      · exact absurd hs (free first keyword hf)
      · exact absurd hf (free second keyword hs)
  legal := by
    intro name mem
    obtain ⟨original, -, rfl⟩ := List.mem_map.1 (h.mem_iff.1 mem)
    exact identifier_not_reserved original

theorem fieldNames_perm (style : ClassStyle) (m : DataModel) (o : Object) :
    ((classOf style m o).fields.map (·.name)).Perm
      ((o.attributes.map (·.name)).map identifier) := by
  rw [classOf, List.map_map, List.map_map]
  exact (fieldOrder_perm style o.attributes).map _

theorem memberNames_eq (e : Enumeration) :
    (enumClassOf e).members.map (·.1) = e.mappings.names.map identifier := by
  rw [enumClassOf, Dictionary.names, List.map_map, List.map_map]
  rfl

/-! ## Names in the data -/

section

variable (named : List Char → Option Nat)

/-- The value of a text that is one literal. -/
def literalValue? (text : String) : Option (List Nat) :=
  match literalFrom named text.toList with
  | some (value, []) => some value
  | _ => none

/-- The name of a field in the data: its alias, if there is one, or else its own name. -/
def wireName? (d : Declaration) : Option (List Nat) :=
  match d.argument? "alias" with
  | some text => literalValue? named text
  | none => some (codes d.name.toList)

theorem literalValue?_textLiteral {text : String} (clean : '\x00' ∉ text.toList) :
    literalValue? named (textLiteral text) = some (codes text.toList) := by
  have read : literalFrom named ((textLiteral text).toList ++ []) = _ :=
    literalFrom_textLiteral text nofun
  rw [List.append_nil, if_neg clean] at read
  rw [literalValue?, read]

theorem alias_declarationOf (m : DataModel) (a : Attribute) :
    (declarationOf .pydantic m a).argument? "alias" = (otherName? a).map inQuotes := by
  have front : (if default m a = .missing then [Argument.plain "..."]
      else (default m a).arguments).findSome? (Argument.value? "alias") = none := by
    cases default m a <;> rfl
  have description : (if a.docstring.isEmpty then []
      else [Argument.named "description" (inQuotes (escapeString a.docstring))]).findSome?
        (Argument.value? "alias") = none := by
    split <;> rfl
  have extra : (a.term.toList.map extraArgument).findSome? (Argument.value? "alias") = none := by
    cases a.term <;> rfl
  have found : (checkedArguments m a).findSome? (Argument.value? "alias") =
      (otherName? a).map inQuotes := by
    rw [checkedArguments, List.findSome?_append, List.findSome?_append, List.findSome?_append,
      front, description, extra, Option.none_or, Option.or_none, Option.or_none]
    cases otherName? a <;> rfl
  exact found

/-- A keyword between quotes is a literal, as no character of it needs an escape. -/
theorem literalValue?_reserved {name : String} (h : name ∈ reserved) :
    literalValue? named (inQuotes name) = some (codes name.toList) := by
  have plain : ∀ k ∈ reserved, inQuotes k = textLiteral k ∧ '\x00' ∉ k.toList := by decide
  rw [(plain name h).1]
  exact literalValue?_textLiteral named (plain name h).2

/-- A field is found in the data under the name of its attribute. -/
theorem wireName?_declarationOf (m : DataModel) (a : Attribute) :
    wireName? named (declarationOf .pydantic m a) = some (codes a.name.toList) := by
  rw [wireName?, alias_declarationOf, otherName?]
  by_cases h : a.name ∈ reserved
  · rw [if_neg (mt identifier_eq_self_iff.1 (not_not_intro h))]
    exact literalValue?_reserved named h
  · rw [if_pos (identifier_eq_self_iff.2 h)]
    exact congrArg (some ∘ codes ∘ String.toList) (identifier_of_other h)

end

/-! ## Classes of a model -/

/-- The names in the classes of a valid model are no keywords, and they are different in a class
exactly if no keyword comes with its escaped form in it. In a class that checks every field is found
in the data under the name of its attribute. -/
theorem escaped_names_distinct_iff (reading : Dialect.Reading)
    (valid : (Validation.reportOf reading).isValid = true) (style : ClassStyle)
    (named : List Char → Option Nat) :
    (moduleOf style reading.model).print = render style reading.model ∧
    List.Forall₂ (fun o c => Escaped (o.attributes.map (·.name)) (c.fields.map (·.name)))
      reading.model.objects (moduleOf style reading.model).classes ∧
    List.Forall₂ (fun e c => Escaped e.mappings.names (c.members.map (·.1)))
      reading.model.enums (moduleOf style reading.model).enums ∧
    (style = .pydantic → List.Forall₂
      (fun o c => List.Forall₂ (fun a f => wireName? named f = some (codes a.name.toList))
        o.attributes c.fields)
      reading.model.objects (moduleOf style reading.model).classes) := by
  have formed := Validation.wellFormed_of_isValid valid
  refine ⟨print_moduleOf style _, ?_, ?_, ?_⟩
  · rw [moduleOf, List.forall₂_map_right_iff, List.forall₂_same]
    intro o ho
    exact escaped_of_perm (formed.distinctAttributes o ho) (fieldNames_perm style _ o)
  · rw [moduleOf, List.forall₂_map_right_iff, List.forall₂_same]
    intro e _
    have own : e.mappings.names.Nodup :=
      List.pairwise_map.2 (e.mappings.ascending.imp fun less => String.ne_of_lt less)
    exact escaped_of_perm own (.of_eq (memberNames_eq e))
  · rintro rfl
    rw [moduleOf, List.forall₂_map_right_iff, List.forall₂_same]
    intro o _
    rw [classOf, List.forall₂_map_right_iff]
    exact List.forall₂_same.2 fun a _ => wireName?_declarationOf named _ a

/-- A model with a keyword among the names of every sort. -/
def lessonModel : DataModel where
  objects := [
    { name := "Lesson", attributes := [
      { name := "class", dtypes := ["string"], xml := .ofElement "class" },
      { name := "class_2", dtypes := ["Grade"], xml := .ofElement "class_2" }] }]
  enums := [{ name := "Grade", mappings := { entries := [("None", "none"), ("Pass", "pass")] } }]

theorem isValid_lessonModel :
    (Validation.reportOf { model := lessonModel }).isValid = true := by
  refine Validation.isValid_of_rules (.inl (by simp [lessonModel])) ?_ ?_ <;> decide

theorem escaped_names_lessonModel :
    (Validation.reportOf { model := lessonModel }).isValid = true ∧
    (moduleOf .pydantic lessonModel).print = render .pydantic lessonModel ∧
    List.Forall₂ (fun o c => Escaped (o.attributes.map (·.name)) (c.fields.map (·.name)))
      lessonModel.objects (moduleOf .pydantic lessonModel).classes ∧
    List.Forall₂ (fun e c => Escaped e.mappings.names (c.members.map (·.1)))
      lessonModel.enums (moduleOf .pydantic lessonModel).enums ∧
    (ClassStyle.pydantic = .pydantic → List.Forall₂
      (fun o c => List.Forall₂
        (fun a f => wireName? (fun _ => none) f = some (codes a.name.toList)) o.attributes c.fields)
      lessonModel.objects (moduleOf .pydantic lessonModel).classes) :=
  ⟨isValid_lessonModel,
    escaped_names_distinct_iff { model := lessonModel } isValid_lessonModel .pydantic _⟩

example : (moduleOf .pydantic lessonModel).classes.flatMap (·.fields.map (·.name)) =
      ["class_", "class_2"] ∧
    (moduleOf .pydantic lessonModel).enums.flatMap (·.members.map (·.1)) = ["None_", "Pass"] := by
  decide

/-- A document with a keyword and its escaped form among the attributes of an object. -/
def sourceAttributes : String := "### A\n- from\n  - Type: string\n- from_\n  - Type: string\n"

/-- A document with a keyword and its escaped form among the members of an enumeration. -/
def absentMembers : String := "### A\n\n```\nNone = \"a\"\nNone_ = \"b\"\n```\n"

theorem exists_of_map_eq_ok {ε α β : Type} {f : α → β} {read : Except ε α} {b : β}
    (h : read.map f = .ok b) : ∃ a, read = .ok a ∧ f a = b := by
  cases read with
  | error e => cases h
  | ok a => exact ⟨a, rfl, Except.ok.inj h⟩

/-- Both documents are valid, and in every style two fields have the same name, or two members. -/
theorem escaped_names_repeated :
    (∃ reading, Dialect.parse sourceAttributes = .ok reading ∧
      (Validation.reportOf reading).isValid = true ∧
      ∀ style, ∃ c ∈ (moduleOf style reading.model).classes, ¬ (c.fields.map (·.name)).Nodup) ∧
    ∃ reading, Dialect.parse absentMembers = .ok reading ∧
      (Validation.reportOf reading).isValid = true ∧
      ∀ style, ∃ c ∈ (moduleOf style reading.model).enums, ¬ (c.members.map (·.1)).Nodup := by
  have attributes : (Dialect.parse sourceAttributes).map (fun reading =>
      ((Validation.reportOf reading).isValid,
        reading.model.objects.map fun o => o.attributes.map (·.name))) =
      .ok (true, [["from", "from_"]]) := by decide +kernel
  have members : (Dialect.parse absentMembers).map (fun reading =>
      ((Validation.reportOf reading).isValid, reading.model.enums.map (·.mappings.names))) =
      .ok (true, [["None", "None_"]]) := by decide +kernel
  constructor
  · obtain ⟨reading, read, same⟩ := exists_of_map_eq_ok attributes
    obtain ⟨valid, names⟩ := Prod.mk.inj same
    refine ⟨reading, read, valid, fun style => ?_⟩
    obtain ⟨o, inside, pair⟩ := List.mem_map.1 (names ▸ List.mem_singleton_self ["from", "from_"])
    refine ⟨classOf style reading.model o, List.mem_map_of_mem inside, ?_⟩
    rw [(fieldNames_perm style reading.model o).nodup_iff, pair]
    decide
  · obtain ⟨reading, read, same⟩ := exists_of_map_eq_ok members
    obtain ⟨valid, names⟩ := Prod.mk.inj same
    refine ⟨reading, read, valid, fun style => ?_⟩
    obtain ⟨e, inside, pair⟩ := List.mem_map.1 (names ▸ List.mem_singleton_self ["None", "None_"])
    refine ⟨enumClassOf e, List.mem_map_of_mem inside, ?_⟩
    rw [memberNames_eq, pair]
    decide

end Target.Python
end DocModel

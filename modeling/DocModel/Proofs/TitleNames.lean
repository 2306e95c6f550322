import DocModel.Proofs.IdentifierWords
import DocModel.Proofs.Julia.Modules
import DocModel.Proofs.Passages
import DocModel.Proofs.TypeFiles

/-!
# DocModel.Proofs.TitleNames

The names that packages and modules get from the title of a document: which titles give identifiers.

* What a letter is depends on the language (`Alphabet`); an identifier is a letter or an underscore,
  then letters, digits and underscores;
* the names of packages are what is left of the title in small letters, the name of a module is
  made of its words with capital letters. Nothing but separators is dropped, so that one other sign
  in the title is enough to spoil all three (`titleNames_identifier_iff`);
* of a title without words packages have another name, but a module has none.
-/

namespace DocModel
namespace Target

open Text Unicode Validation

/-! ## Identifiers -/

/-- The letters and digits of a language, with the letters of ASCII among them. -/
structure Alphabet where
  letter : Char → Prop
  digit : Char → Prop
  ascii : ∀ c, Letter c → letter c

namespace Alphabet

variable {A : Alphabet} {text : List Char}

/-- A letter or an underscore, then letters, digits and underscores. -/
def Identifier (A : Alphabet) : List Char → Prop :=
  NameOf (fun c => A.letter c ∨ c = '_') fun c => A.letter c ∨ A.digit c ∨ c = '_'

/-- Letters and digits, with a letter in front if there is something. -/
structure Spells (A : Alphabet) (text : List Char) : Prop where
  head : ∀ c ∈ text.head?, A.letter c
  all : ∀ c ∈ text, A.letter c ∨ A.digit c

theorem identifier_iff : A.Identifier text ↔
    (∃ c ∈ text.head?, A.letter c ∨ c = '_') ∧ ∀ c ∈ text, A.letter c ∨ A.digit c ∨ c = '_' := by
  constructor
  · intro h
    refine ⟨h.exists_head?, h.forall_mem fun c start => ?_⟩
    exact start.imp_right .inr
  · rintro ⟨⟨c, begun, start⟩, later⟩
    exact .of_head? begun start later

/-- Without underscores it takes a letter in front and nothing but letters and digits. -/
theorem identifier_bare_iff (bare : '_' ∉ text) :
    A.Identifier text ↔ text ≠ [] ∧ A.Spells text := by
  have other : ∀ c ∈ text, c ≠ '_' := fun c hc same => bare (same ▸ hc)
  cases text with
  | nil => exact iff_of_false (fun h => h.ne_nil rfl) fun h => h.1 rfl
  | cons c rest =>
    have letter : (∃ d ∈ (c :: rest).head?, A.letter d ∨ d = '_') ↔
        ∀ d ∈ (c :: rest).head?, A.letter d := by
      simp [other c List.mem_cons_self]
    have all : (∀ d ∈ c :: rest, A.letter d ∨ A.digit d ∨ d = '_') ↔
        ∀ d ∈ c :: rest, A.letter d ∨ A.digit d :=
      forall₂_congr fun d hd => by rw [or_iff_left (other d hd)]
    rw [identifier_iff, letter, all, and_iff_right (List.cons_ne_nil _ _)]
    exact ⟨fun h => ⟨h.1, h.2⟩, fun h => ⟨h.head, h.all⟩⟩

theorem identifier_joinWith_iff {words : List (List Char)} (filled : ∀ w ∈ words, w ≠ []) :
    A.Identifier (joinWith ['_'] words) ↔ A.Identifier words.flatten := by
  rw [identifier_iff, identifier_iff, head?_joinWith_flatten filled]
  refine and_congr_right fun _ => ⟨fun all c mem => all c ?_, fun all c mem => ?_⟩
  · obtain ⟨w, hw, inside⟩ := List.mem_flatten.1 mem
    exact mem_joinWith_of_mem hw inside
  · rcases mem_joinWith mem with rfl | ⟨w, hw, inside⟩
    · exact .inr (.inr rfl)
    · exact all c (List.mem_flatten_of_mem hw inside)

theorem Spells.nil : A.Spells [] :=
  ⟨fun _ hc => absurd hc (Option.not_mem_none _), List.forall_mem_nil _⟩

end Alphabet

/-! ## Names of packages -/

section

variable {A : Alphabet}

theorem underscore_notMem {text : List Char} (h : ∀ c ∈ text, isWordSeparator c = false) :
    '_' ∉ text := fun mem => absurd (h _ mem) (by decide)

/-- What is left of a title has to be an identifier, if there is something left. -/
theorem identifier_word_iff (m : DataModel) (write : String → String) :
    A.Identifier (m.word write).toList ↔
      ∀ title ∈ m.name, (write title).toList ≠ [] → A.Identifier (write title).toList := by
  have other : A.Identifier "model".toList := by
    have small : "model".toList.all Char.isLower = true := by decide
    have word : DefinitionName "model".toList := isDefinitionName_iff.1 (by decide)
    obtain ⟨c, begun, letter⟩ := word.exists_head?
    exact .of_head? begun (.inl (A.ascii c letter)) fun d hd =>
      .inl (A.ascii d (letter_of_isLower (List.all_eq_true.1 small d hd)))
  rw [DataModel.word]
  cases m.name with
  | none => exact iff_of_true other fun _ mem => absurd mem (Option.not_mem_none _)
  | some title =>
    simp only [Option.map_some, Option.getD_some, Option.mem_some_iff, forall_eq',
      String.isEmpty_iff, Ne, String.toList_eq_nil_iff]
    split
    · next empty => exact iff_of_true other fun some => absurd empty some
    · next some => exact (imp_iff_right some).symm

theorem identifier_remnant_iff (title : List Char) :
    (remnant title ≠ [] → A.Identifier (remnant title)) ↔ A.Spells (remnant title) := by
  rw [Alphabet.identifier_bare_iff (underscore_notMem not_separator_of_mem_remnant)]
  constructor
  · intro h
    by_cases empty : remnant title = []
    · rw [empty]
      exact .nil
    · exact (h empty).2
  · exact fun h some => ⟨some, h⟩

/-- Without the underscores between its words a title is what is left of it. -/
theorem toList_packageWord (title : String) :
    (onChars (replaceChar '_' []) (snakeCase title)).toList = remnant title.toList := by
  have bare : ∀ w ∈ identifierWords title.toList, '_' ∉ w := fun w hw =>
    underscore_notMem (not_separator_of_mem_identifierWords w hw)
  rw [onChars, String.toList_ofList, toList_snakeCase, replaceChar_joinWith bare,
    joinWith_nothing, flatten_identifierWords]

theorem packageName_identifier_iff (m : DataModel) :
    A.Identifier (Golang.packageName m).toList ↔
      ∀ title ∈ m.name, A.Spells (remnant title.toList) := by
  rw [Golang.packageName, identifier_word_iff]
  refine forall₂_congr fun title _ => ?_
  rw [toList_packageWord, identifier_remnant_iff]

theorem slug_identifier_iff (m : DataModel) :
    A.Identifier m.slug.toList ↔ ∀ title ∈ m.name, A.Spells (remnant title.toList) := by
  rw [DataModel.slug, identifier_word_iff]
  refine forall₂_congr fun title _ => ?_
  have filled : joinWith ['_'] (identifierWords title.toList) ≠ [] ↔ remnant title.toList ≠ [] := by
    rw [← flatten_identifierWords, Ne, Ne, ← List.head?_eq_none_iff,
      head?_joinWith_flatten ne_nil_of_mem_identifierWords, List.head?_eq_none_iff]
  rw [toList_snakeCase, filled, Alphabet.identifier_joinWith_iff ne_nil_of_mem_identifierWords,
    flatten_identifierWords, identifier_remnant_iff]

/-! ## Names of modules -/

/-- The words of a text, each with a capital letter in front. -/
def capitals (text : List Char) : List Char := (identifierWords text).flatMap capitalize

theorem not_separator_of_mem_capitals {text : List Char} :
    ∀ c ∈ capitals text, isWordSeparator c = false := by
  intro c hc
  obtain ⟨w, hw, inside⟩ := List.mem_flatMap.1 hc
  have plain := not_separator_of_mem_identifierWords w hw
  cases w with
  | nil => cases inside
  | cons d rest =>
    rw [capitalize, List.mem_append] at inside
    rcases inside with first | later
    · have kept := plain d List.mem_cons_self
      exact Bool.eq_false_iff.2 fun separator =>
        absurd (isWordSeparator_of_mem_toUpper first separator) (by simp [kept])
    · exact plain c (List.mem_cons_of_mem d later)

theorem capitals_ne_nil_iff {text : List Char} :
    capitals text ≠ [] ↔ ∃ c ∈ text, isWordSeparator c = false := by
  have first {w : List Char} (some : w ≠ []) : capitalize w ≠ [] := by
    cases w with
    | nil => exact absurd rfl some
    | cons c rest => exact List.append_ne_nil_of_left_ne_nil (toUpper_ne_nil c) rest
  rw [← identifierWords_ne_nil_iff, capitals, Ne, Ne, List.flatMap_eq_nil_iff, not_iff_not]
  refine ⟨fun empty => List.eq_nil_iff_forall_not_mem.2 fun w hw => ?_, fun none => ?_⟩
  · exact first (ne_nil_of_mem_identifierWords w hw) (empty w hw)
  · exact none ▸ List.forall_mem_nil _

theorem moduleName_identifier_iff (m : DataModel) :
    A.Identifier (Julia.moduleName m).toList ↔
      (∃ c ∈ m.title.toList, isWordSeparator c = false) ∧ A.Spells (capitals m.title.toList) := by
  rw [Julia.moduleName, toList_pascalCase, ← capitals,
    Alphabet.identifier_bare_iff (underscore_notMem not_separator_of_mem_capitals),
    capitals_ne_nil_iff]

end

/-! ## Titles -/

/-- The names of the packages and of the module of a model are identifiers exactly if nothing but
letters and digits is left of the title without its separators, and a letter stands in front. The
module has no name at all if there is nothing left, where the packages have another one. -/
theorem titleNames_identifier_iff (A : Alphabet) (m : DataModel) :
    (Golang.printFile (Golang.file m) = Golang.render m ∧
      (A.Identifier (Golang.file m).head.package.toList ↔
        ∀ title ∈ m.name, A.Spells (remnant title.toList))) ∧
    (Protobuf.printFile (Protobuf.file m) = Protobuf.render m ∧
      (A.Identifier (Protobuf.file m).head.toList ↔
        ∀ title ∈ m.name, A.Spells (remnant title.toList))) ∧
    (Julia.moduleOf m).print = Julia.render m ∧
      (A.Identifier (Julia.moduleOf m).name.toList ↔
        (∃ c ∈ m.title.toList, isWordSeparator c = false) ∧
          A.Spells (capitals m.title.toList)) :=
  ⟨⟨Golang.printFile_file m, packageName_identifier_iff m⟩,
    ⟨Protobuf.printFile_file m, slug_identifier_iff m⟩,
    Julia.print_moduleOf m, moduleName_identifier_iff m⟩

/-- The letters and digits of ASCII. -/
def Alphabet.basic : Alphabet where
  letter := Letter
  digit := Digit
  ascii _ h := h

theorem Alphabet.identifier_basic {text : List Char} :
    Alphabet.basic.Identifier text ↔ isAttributeName text = true :=
  isAttributeName_iff.symm

/-- The names that a model gets from its title. -/
def titleNames (m : DataModel) : List String :=
  [(Golang.file m).head.package, (Protobuf.file m).head, (Julia.moduleOf m).name]

example :
    titleNames { name := some "lab notes_2" } = ["labnotes2", "lab_notes_2", "LabNotes2"] := by
  decide

theorem titleNames_of_title {source title : String} {valid : Bool}
    (read : (Dialect.parse source).map (fun reading =>
      ((Validation.reportOf reading).isValid, reading.model.name)) = .ok (valid, some title)) :
    (Dialect.parse source).map (fun reading =>
        ((Validation.reportOf reading).isValid, titleNames reading.model)) =
      .ok (valid, titleNames { name := some title }) := by
  cases parsed : Dialect.parse source with
  | error e => rw [parsed] at read; cases read
  | ok reading =>
    rw [parsed] at read
    obtain ⟨checked, named⟩ := Prod.mk.inj (Except.ok.inj read)
    have same : titleNames reading.model = titleNames { name := reading.model.name } := rfl
    rw [Except.map, checked, same, named]

/-- A document whose title begins with a digit and has brackets in it. -/
def shapesDocument : String := "# 2D shapes (v1)\n### A\n- x\n  - Type: string\n"

/-- A document whose title is a separator. -/
def hyphenDocument : String := "# -\n### A\n- x\n  - Type: string\n"

/-- The documents are valid. Of the first title the digit and the brackets are left, and of the
second one nothing: the module has no name. -/
theorem titleNames_not_identifiers :
    ((Dialect.parse shapesDocument).map (fun reading =>
        ((Validation.reportOf reading).isValid, titleNames reading.model)) =
          .ok (true, ["2dshapes(v1)", "2_d_shapes_(v1)", "2DShapes(v1)"]) ∧
      ∀ name ∈ ["2dshapes(v1)", "2_d_shapes_(v1)", "2DShapes(v1)"],
        ¬ Alphabet.basic.Identifier name.toList) ∧
    (Dialect.parse hyphenDocument).map (fun reading =>
        ((Validation.reportOf reading).isValid, titleNames reading.model)) =
          .ok (true, ["model", "model", ""]) ∧
      ∀ A : Alphabet, ¬ A.Identifier "".toList := by
  have shapes : titleNames { name := some "2D shapes (v1)" } =
      ["2dshapes(v1)", "2_d_shapes_(v1)", "2DShapes(v1)"] := by decide
  have hyphen : titleNames { name := some "-" } = ["model", "model", ""] := by decide
  refine ⟨⟨?_, fun name mem => ?_⟩, ?_, fun A h => h.ne_nil rfl⟩
  · rw [← shapes]
    exact titleNames_of_title (by decide +kernel)
  · have refused : ∀ name ∈ ["2dshapes(v1)", "2_d_shapes_(v1)", "2DShapes(v1)"],
        isAttributeName name.toList = false := by decide
    rw [Alphabet.identifier_basic, refused name mem]
    exact Bool.false_ne_true
  · rw [← hyphen]
    exact titleNames_of_title (by decide +kernel)

end Target
end DocModel

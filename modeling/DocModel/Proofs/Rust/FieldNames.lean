import DocModel.Proofs.Words
import DocModel.Target.Rust

/-!
# DocModel.Proofs.Rust.FieldNames

The names of the fields of structures in Rust: which of them Rust accepts, and the names that serde
writes for them.

* `FieldIdentifier` is what Rust 2021 takes for the name of a field;
* a name in small letters is no name of a field if it begins with a digit, if nothing is left of it,
  or if it is one of the words that are kept for later, which the identifiers do not escape;
* in any case the name in the data is the name of the attribute.
-/

namespace DocModel
namespace Target.Rust

open Text Validation

/-! ## Identifiers of the language -/

/-- The words with a meaning of their own. -/
def strictKeywords : List String :=
  ["as", "async", "await", "break", "const", "continue", "crate", "dyn", "else", "enum", "extern",
   "false", "fn", "for", "if", "impl", "in", "let", "loop", "match", "mod", "move", "mut", "pub",
   "ref", "return", "self", "Self", "static", "struct", "super", "trait", "true", "type", "unsafe",
   "use", "where", "while"]

/-- The words that are kept for later. -/
def reservedKeywords : List String :=
  ["abstract", "become", "box", "do", "final", "macro", "override", "priv", "try", "typeof",
   "unsized", "virtual", "yield"]

/-- The keywords that no mark makes an identifier. -/
def unmarkableKeywords : List String := ["crate", "self", "Self", "super"]

/-- A name of a field: a word that is no keyword, or a keyword with a mark. -/
inductive FieldIdentifier : String → Prop where
  | plain {name : String} : AttributeName name.toList → name ≠ "_" → name ∉ strictKeywords →
      name ∉ reservedKeywords → FieldIdentifier name
  | raw {word : String} : word ∈ strictKeywords ∨ word ∈ reservedKeywords →
      word ∉ unmarkableKeywords → FieldIdentifier ("r#" ++ word)

/-- A name without the mark in front. -/
def unmarked : List Char → List Char
  | 'r' :: '#' :: rest => rest
  | name => name

/-- The name that serde reads and writes for a field. -/
def serdeName (f : Field) : String := f.rename.getD (onChars unmarked f.name)

/-! ## Escaped names -/

theorem withoutRawMarks_eq_self {name : List Char} (h : '#' ∉ name) :
    withoutRawMarks name = name := by
  unfold withoutRawMarks
  split
  · simp at h
  · rfl

theorem unmarked_eq_self {name : List Char} (h : '#' ∉ name) : unmarked name = name := by
  unfold unmarked
  split
  · simp at h
  · rfl

theorem identifier_cases (name : String) :
    (name ∈ pathKeywords ∧ identifier name = name ++ "_") ∨
      (name ∈ keywords ∧ name ∉ pathKeywords ∧ identifier name = "r#" ++ name) ∨
      (name ∉ keywords ∧ name ∉ pathKeywords ∧ identifier name = name) := by
  by_cases path : name ∈ pathKeywords
  · exact .inl ⟨path, by simp [identifier, path]⟩
  · by_cases keyword : name ∈ keywords
    · exact .inr (.inl ⟨keyword, path, by simp [identifier, path, keyword, rawMark]⟩)
    · exact .inr (.inr ⟨keyword, path, by simp [identifier, path, keyword]⟩)

/-- A name in small letters, digits and underscores that begins and ends with none of these. -/
structure SmallName (name : String) : Prop where
  small : ∀ c ∈ name.toList, SmallChar c ∨ c = '_'
  head : ∀ c ∈ name.toList.head?, SmallChar c
  last : ∀ c ∈ name.toList.getLast?, SmallChar c

theorem smallName_snakeCase {name : String} (h : ∀ c ∈ name.toList, WordChar c) :
    SmallName (snakeCase name) :=
  ⟨smallChar_snakeCase h, head?_snakeCase h, getLast?_snakeCase h⟩

theorem SmallName.hash_notMem {name : String} (h : SmallName name) : '#' ∉ name.toList :=
  fun mem => (h.small '#' mem).elim (by decide) (by decide)

theorem identifier_back {name : String} (h : SmallName name) :
    withoutRawMarks (dropEndWhile (· == '_') (identifier name).toList) = name.toList := by
  have ending : dropEndWhile (· == '_') name.toList = name.toList :=
    dropEndWhile_eq_self fun c hc => beq_eq_false_iff_ne.2 (h.last c hc).ne_underscore
  obtain ⟨-, same⟩ | ⟨-, -, same⟩ | ⟨-, -, same⟩ := identifier_cases name
  · have dropped : dropEndWhile (· == '_') (name.toList ++ ['_']) = name.toList := by
      rw [dropEndWhile_eq_rdropWhile, List.rdropWhile_concat_pos _ _ _ rfl]
      exact ending
    have text : (name ++ "_").toList = name.toList ++ ['_'] := String.toList_append
    rw [same, text, dropped, withoutRawMarks_eq_self h.hash_notMem]
  · have text : ("r#" ++ name).toList = ['r', '#'] ++ name.toList := String.toList_append
    have kept :
        dropEndWhile (· == '_') (['r', '#'] ++ name.toList) = ['r', '#'] ++ name.toList := by
      refine dropEndWhile_eq_self fun c hc => beq_eq_false_iff_ne.2 ?_
      rw [List.getLast?_append, Option.mem_def, Option.or_eq_some_iff] at hc
      rcases hc with hc | ⟨-, hc⟩
      · exact (h.last c hc).ne_underscore
      · rintro rfl
        exact absurd hc (by decide)
    rw [same, text, kept]
    exact withoutRawMarks_eq_self h.hash_notMem
  · rw [same, ending, withoutRawMarks_eq_self h.hash_notMem]

theorem identifier_inj {first second : String} (one : SmallName first) (two : SmallName second) :
    identifier first = identifier second ↔ first = second := by
  refine ⟨fun same => ?_, congrArg _⟩
  rw [← String.toList_inj, ← identifier_back one, same, identifier_back two]

/-- Two fields have the same name exactly if their attributes have the same words. -/
theorem fieldName_inj {a b : String} (ha : ∀ c ∈ a.toList, WordChar c)
    (hb : ∀ c ∈ b.toList, WordChar c) :
    fieldName a = fieldName b ↔ identifierWords a.toList = identifierWords b.toList := by
  rw [fieldName, fieldName, identifier_inj (smallName_snakeCase ha) (smallName_snakeCase hb)]
  exact snakeCase_inj ha hb

/-! ## Names of fields -/

/-- All words with a meaning are escaped but the one that has a capital letter. -/
theorem keyword_of_strict :
    ∀ word ∈ strictKeywords, word ∈ keywords ∨ word.toList.head? = some 'S' := by
  decide

/-- A name in small letters is a name of a field if it begins with a letter and is not one of the
words that are kept for later. -/
theorem fieldIdentifier_iff {name : String} (h : SmallName name) :
    FieldIdentifier (identifier name) ↔
      name.toList.head?.any Char.isLower = true ∧ name ∉ reservedKeywords := by
  obtain ⟨path, same⟩ | ⟨keyword, markable, same⟩ | ⟨keyword, -, same⟩ := identifier_cases name
  · have facts : ∀ word ∈ pathKeywords, isAttributeName (word ++ "_").toList = true ∧
        word ++ "_" ≠ "_" ∧ word ++ "_" ∉ strictKeywords ∧ word ++ "_" ∉ reservedKeywords ∧
        word.toList.head?.any Char.isLower = true ∧ word ∉ reservedKeywords := by decide
    obtain ⟨named, some, strict, reserved, begun⟩ := facts name path
    rw [same]
    exact iff_of_true (.plain (isAttributeName_iff.1 named) some strict reserved) begun
  · have facts : ∀ word ∈ keywords, word ∉ pathKeywords → word ∈ strictKeywords ∧
        word ∉ unmarkableKeywords ∧
        word.toList.head?.any Char.isLower = true ∧ word ∉ reservedKeywords := by decide
    obtain ⟨strict, raw, begun⟩ := facts name keyword markable
    rw [same]
    exact iff_of_true (.raw (.inl strict) raw) begun
  · rw [same]
    constructor
    · intro legal
      cases legal with
      | plain named _ _ reserved =>
        refine ⟨?_, reserved⟩
        obtain ⟨c, begun, start⟩ := named.exists_head?
        have letter : c.isLower = true :=
          (h.head c begun).of_ascii
            (p := fun c => isLetterOrUnderscore c = true → c.isLower = true) (by decide)
            (isLetterOrUnderscore_iff.2 start)
        rw [Option.mem_def.1 begun]
        exact letter
      | @raw word _ _ => exact absurd (by simp [String.toList_append]) h.hash_notMem
    · rintro ⟨begun, reserved⟩
      obtain ⟨c, first, lower⟩ := (Option.any_eq_true _ _).1 begun
      have letter : Letter c := letter_of_isLower lower
      have word : ∀ d ∈ name.toList, WordChar d := fun d hd =>
        (h.small d hd).elim SmallChar.wordChar fun under => .inr (.inr under)
      refine .plain (.of_head? first (.inl letter) word) ?_ (fun strict => ?_) reserved
      · rintro rfl
        exact absurd begun (by decide)
      · rcases keyword_of_strict name strict with escaped | capital
        · exact keyword escaped
        · exact absurd (h.head _ capital) (by decide)

/-! ## Names in the data -/

theorem unmarked_identifier {name : String} (h : SmallName name) :
    onChars unmarked (identifier name) = plainWireName (identifier name) := by
  rw [plainWireName, onChars, onChars]
  obtain ⟨-, same⟩ | ⟨-, -, same⟩ | ⟨-, -, same⟩ := identifier_cases name
  · have bare : '#' ∉ (name ++ "_").toList := by
      rw [String.toList_append, List.mem_append, not_or]
      exact ⟨h.hash_notMem, by decide⟩
    rw [same, unmarked_eq_self bare, withoutRawMarks_eq_self bare]
  · have text : ("r#" ++ name).toList = 'r' :: '#' :: name.toList := String.toList_append
    rw [same, text, withoutRawMarks, withoutRawMarks_eq_self h.hash_notMem, unmarked]
  · rw [same, unmarked_eq_self h.hash_notMem, withoutRawMarks_eq_self h.hash_notMem]

/-- The name of a field is one that Rust takes exactly if a letter stands first behind the
underscores and the name in small letters is not kept for later. The data have the name of the
attribute in any case. -/
theorem fieldName_legal_iff (m : DataModel) (a : Attribute) (named : AttributeName a.name.toList) :
    (field m a).name = fieldName a.name ∧
    (FieldIdentifier (fieldName a.name) ↔
      (∃ c ∈ (a.name.toList.dropWhile (· == '_')).head?, Letter c) ∧
        snakeCase a.name ∉ reservedKeywords) ∧
    serdeName (field m a) = a.name := by
  have small := smallName_snakeCase (attributeName_wordChar named)
  refine ⟨rfl, ?_, ?_⟩
  · rw [← head?_snakeCase_isLower (attributeName_wordChar named)]
    exact fieldIdentifier_iff small
  · have plain : onChars unmarked (fieldName a.name) = plainWireName (fieldName a.name) :=
      unmarked_identifier small
    rw [serdeName, field]
    dsimp only
    split
    · next kept => rw [Option.getD_none, plain, kept]
    · rfl

/-- An attribute whose name in small letters is a keyword. -/
def matchAttribute : Attribute := { name := "Match_", dtypes := ["string"] }

theorem fieldName_legal_matchAttribute :
    AttributeName matchAttribute.name.toList ∧
      (field {} matchAttribute).name = fieldName matchAttribute.name ∧
      (FieldIdentifier (fieldName matchAttribute.name) ↔
        (∃ c ∈ (matchAttribute.name.toList.dropWhile (· == '_')).head?, Letter c) ∧
          snakeCase matchAttribute.name ∉ reservedKeywords) ∧
      serdeName (field {} matchAttribute) = matchAttribute.name :=
  have named : AttributeName matchAttribute.name.toList := isAttributeName_iff.1 (by decide)
  ⟨named, fieldName_legal_iff {} matchAttribute named⟩

example : fieldName matchAttribute.name = "r#match" := by decide

/-- Names of attributes that are written as no names of fields. -/
theorem notLegal_of {name : String} (named : isAttributeName name.toList = true)
    (written : ¬ ((snakeCase name).toList.head?.any Char.isLower = true ∧
      snakeCase name ∉ reservedKeywords)) :
    AttributeName name.toList ∧ ¬ FieldIdentifier (fieldName name) := by
  have proper := isAttributeName_iff.1 named
  refine ⟨proper, fun legal => written ?_⟩
  exact (fieldIdentifier_iff (smallName_snakeCase (attributeName_wordChar proper))).1 legal

/-- Nothing is left of the first name, the second begins with a digit, and the third is kept for
later. -/
theorem fieldName_not_legal :
    (AttributeName "_".toList ∧ ¬ FieldIdentifier (fieldName "_")) ∧
      (AttributeName "_1".toList ∧ ¬ FieldIdentifier (fieldName "_1")) ∧
      (AttributeName "abstract".toList ∧ ¬ FieldIdentifier (fieldName "abstract")) :=
  ⟨notLegal_of (by decide) (by decide), notLegal_of (by decide) (by decide),
    notLegal_of (by decide) (by decide)⟩

end Target.Rust
end DocModel

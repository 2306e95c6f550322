import DocModel.Proofs.Unicode.CaseImages
import DocModel.Proofs.Words

/-!
# DocModel.Proofs.IdentifierWords

The words of any text, whatever its characters.

* Nothing is lost: put together, the words are what stands between the separators, in small letters
  (`flatten_identifierWords`);
* no word is empty, and no separator stands in a word.
-/

namespace DocModel
namespace Text

open Unicode

/-! ## Joined words -/

theorem joinWith_nothing (pieces : List (List Char)) : joinWith [] pieces = pieces.flatten := by
  induction pieces with
  | nil => rfl
  | cons piece rest ih =>
    cases rest with
    | nil => exact (List.append_nil _).symm
    | cons next more => rw [joinWith, ih, List.append_nil]; rfl

theorem mem_joinWith_of_mem {sep piece : List Char} {pieces : List (List Char)} {c : Char}
    (mem : piece ∈ pieces) (inside : c ∈ piece) : c ∈ joinWith sep pieces := by
  induction pieces with
  | nil => cases mem
  | cons first rest ih =>
    cases rest with
    | nil => exact List.mem_singleton.1 mem ▸ inside
    | cons next more =>
      rw [joinWith, List.append_assoc, List.mem_append, List.mem_append]
      rcases List.mem_cons.1 mem with rfl | later
      · exact .inl inside
      · exact .inr (.inr (ih later))

theorem head?_joinWith_flatten {sep : List Char} {words : List (List Char)}
    (filled : ∀ w ∈ words, w ≠ []) : (joinWith sep words).head? = words.flatten.head? := by
  cases words with
  | nil => rfl
  | cons word more =>
    have some := filled word List.mem_cons_self
    rw [head?_joinWith some, List.flatten_cons, List.head?_append_of_ne_nil _ some]

/-! ## The words of a text -/

/-- What is left of a text in small letters without its separators. -/
def remnant (text : List Char) : List Char := (text.filter (!isWordSeparator ·)).flatMap toLower

variable {text : List Char}

theorem flatten_consWord (word : List Char) (words : List (List Char)) :
    (consWord word words).flatten = word ++ words.flatten := by
  cases word with
  | nil => rfl
  | cons c rest => rfl

theorem remnant_cons (c : Char) (rest : List Char) :
    remnant (c :: rest) =
      if isWordSeparator c then remnant rest else toLower c ++ remnant rest := by
  rw [remnant, List.filter_cons]
  cases isWordSeparator c <;> rfl

/-- Every character is added to the word that is begun, or to a new one. -/
theorem flatten_wordsAfter (before : Option Char) (word text : List Char) :
    (wordsAfter before word text).flatten = word ++ remnant text := by
  induction text generalizing before word with
  | nil => rw [wordsAfter, flatten_consWord]; rfl
  | cons c rest ih =>
    rw [wordsAfter, remnant_cons]
    split
    · rw [flatten_consWord, ih, List.nil_append]
    · split
      · rw [flatten_consWord, ih]
      · rw [ih, List.append_assoc]

theorem flatten_identifierWords (text : List Char) :
    (identifierWords text).flatten = remnant text :=
  flatten_wordsAfter none [] text

theorem ne_nil_of_mem_wordsAfter {before : Option Char} {word : List Char} :
    ∀ w ∈ wordsAfter before word text, w ≠ [] := by
  induction text generalizing before word with
  | nil => exact forall_mem_consWord id fun _ h => absurd h List.not_mem_nil
  | cons c rest ih =>
    rw [wordsAfter]
    split
    · exact forall_mem_consWord id ih
    · split
      · exact forall_mem_consWord id ih
      · exact ih

theorem ne_nil_of_mem_identifierWords : ∀ w ∈ identifierWords text, w ≠ [] :=
  ne_nil_of_mem_wordsAfter

theorem not_separator_of_mem_remnant : ∀ c ∈ remnant text, isWordSeparator c = false := by
  intro c hc
  obtain ⟨d, hd, image⟩ := List.mem_flatMap.1 hc
  have inside : isWordSeparator d = false := by simpa using (List.mem_filter.1 hd).2
  exact Bool.eq_false_iff.2 fun separator =>
    absurd (isWordSeparator_of_mem_toLower image separator) (by simp [inside])

theorem not_separator_of_mem_identifierWords :
    ∀ w ∈ identifierWords text, ∀ c ∈ w, isWordSeparator c = false := by
  intro w hw c hc
  have kept : c ∈ remnant text := flatten_identifierWords text ▸ List.mem_flatten_of_mem hw hc
  exact not_separator_of_mem_remnant c kept

/-- There is a word exactly if there is something that is no separator. -/
theorem identifierWords_ne_nil_iff :
    identifierWords text ≠ [] ↔ ∃ c ∈ text, isWordSeparator c = false := by
  have filled : identifierWords text ≠ [] ↔ remnant text ≠ [] := by
    rw [← flatten_identifierWords, not_iff_not, List.flatten_eq_nil_iff]
    refine ⟨fun none => none ▸ List.forall_mem_nil _, fun empty => ?_⟩
    exact List.eq_nil_iff_forall_not_mem.2 fun w hw =>
      ne_nil_of_mem_identifierWords w hw (empty w hw)
  rw [filled, remnant, Ne, List.flatMap_eq_nil_iff]
  simp [toLower_ne_nil]

end Text
end DocModel

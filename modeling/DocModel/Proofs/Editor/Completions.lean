import DocModel.Proofs.Source.Slices
import Mathlib.Data.List.DropRight

/-!
# DocModel.Proofs.Editor.Completions

A completion replaces the whole word before the cursor and nothing else. The word is found from
behind, character by character, and its bytes are taken off the offset of the cursor.

* `not_boundary_iff`: an offset is no boundary if it is past the end or inside a character.
* `completeAt_of_boundary`: behind a text the word is what `List.rtakeWhile` leaves of it.
* `completions_replace_word`: where there is a completion, and that its range is a maximal word.
-/

namespace DocModel
namespace Editor

open Text

/-! ## Offsets -/

/-- An offset behind the first byte of a character and before its end. -/
def InsideCharacter (source : List Char) (offset : Nat) : Prop :=
  ∃ before c after, source = before ++ c :: after ∧ byteLength before < offset ∧
    offset < byteLength before + c.utf8Size

/-- The character that ends at an offset. -/
def charBefore? (source : List Char) (offset : Nat) : Option Char :=
  (takeBytes? offset source).bind (·.getLast?)

section

variable {source before : List Char} {offset : Nat}

theorem takeBytes?_byteLength (before after : List Char) :
    takeBytes? (byteLength before) (before ++ after) = some before :=
  takeBytes?_eq_some_iff.2 ⟨after, rfl, rfl⟩

theorem charBefore?_byteLength (before after : List Char) :
    charBefore? (before ++ after) (byteLength before) = before.getLast? := by
  rw [charBefore?, takeBytes?_byteLength, Option.bind_some]

theorem boundary_iff :
    Boundary source offset ↔ ∃ before, takeBytes? offset source = some before := by
  simp only [Boundary, takeBytes?_eq_some_iff]

/-- Up to an offset there are whole characters, and then the text ends or one that is too long. -/
theorem exists_within (source : List Char) (offset : Nat) :
    ∃ before after, source = before ++ after ∧ byteLength before ≤ offset ∧
      ∀ c ∈ after.head?, offset < byteLength before + c.utf8Size := by
  induction source generalizing offset with
  | nil => exact ⟨[], [], rfl, Nat.zero_le _, fun _ none => by cases none⟩
  | cons c rest ih =>
    by_cases fits : c.utf8Size ≤ offset
    · obtain ⟨before, after, rfl, within, stop⟩ := ih (offset - c.utf8Size)
      refine ⟨c :: before, after, rfl, ?_, fun d hd => ?_⟩
      · rw [byteLength_cons]
        omega
      · have wide := stop d hd
        rw [byteLength_cons]
        omega
    · refine ⟨[], c :: rest, rfl, Nat.zero_le _, ?_⟩
      intro d own
      cases own
      simpa [byteLength] using fits

theorem not_boundary_iff :
    ¬ Boundary source offset ↔ byteLength source < offset ∨ InsideCharacter source offset := by
  constructor
  · intro none
    obtain ⟨before, after, rfl, within, stop⟩ := exists_within source offset
    have short : byteLength before < offset :=
      Nat.lt_of_le_of_ne within fun same => none ⟨before, after, rfl, same⟩
    cases after with
    | nil => exact .inl (by rwa [List.append_nil])
    | cons c rest => exact .inr ⟨before, c, rest, rfl, short, stop c rfl⟩
  · rintro outside ⟨front, back, cut, length⟩
    rcases outside with past | ⟨before, c, after, cut', begun, unended⟩
    · rw [cut, byteLength_append] at past
      omega
    · -- two cuts of one text: one of the parts before them is a beginning of the other
      have cuts := List.append_eq_append_iff.1 (cut.symm.trans cut')
      rcases cuts with ⟨more, rfl, -⟩ | ⟨more, rfl, rest⟩
      · rw [byteLength_append] at begun
        omega
      · cases more with
        | nil =>
          rw [List.append_nil] at length
          omega
        | cons d more =>
          obtain ⟨rfl, -⟩ := List.cons.inj rest
          rw [byteLength_append, byteLength_cons] at length
          omega

end

/-! ## Words -/

theorem byteLength_reverse (text : List Char) : byteLength text.reverse = byteLength text := by
  induction text with
  | nil => rfl
  | cons c rest ih =>
    rw [List.reverse_cons, byteLength_append, ih, byteLength_cons, byteLength_cons, Nat.add_comm]
    rfl

/-- Behind a text a completion takes its last word, if there is one or if it is asked for. -/
theorem completeAt_of_boundary (before after : List Char) (explicit : Bool) :
    completeAt (before ++ after) (byteLength before) explicit =
      if before.rtakeWhile isWordPart = [] ∧ explicit = false then none
      else some { start := byteLength (before.rdropWhile isWordPart), options := snippets } := by
  have word : before.reverse.takeWhile isWordPart = (before.rtakeWhile isWordPart).reverse := by
    rw [List.rtakeWhile, List.reverse_reverse]
  have start : byteLength before - byteLength (before.rtakeWhile isWordPart) =
      byteLength (before.rdropWhile isWordPart) := by
    have whole := congrArg byteLength (@List.rdropWhile_append_rtakeWhile _ isWordPart before)
    rw [byteLength_append] at whole
    omega
  rw [completeAt, takeBytes?_byteLength]
  simp [word, byteLength_reverse, start]

theorem completeAt_of_not_boundary {source : List Char} {offset : Nat}
    (h : ¬ Boundary source offset) (explicit : Bool) :
    completeAt source offset explicit = none := by
  have none : takeBytes? offset source = none := by
    rw [Option.eq_none_iff_forall_ne_some]
    intro before found
    exact h (boundary_iff.2 ⟨before, found⟩)
  rw [completeAt, none]

theorem rtakeWhile_eq_nil_iff {p : Char → Bool} {text : List Char} :
    text.rtakeWhile p = [] ↔ ∀ c ∈ text.getLast?, p c = false := by
  rw [List.rtakeWhile_eq_nil_iff]
  constructor
  · intro stop c last
    obtain ⟨some, rfl⟩ := List.mem_getLast?_eq_getLast last
    simpa using stop some
  · intro stop some
    simpa using stop _ (List.getLast?_eq_getLast_of_ne_nil some)

theorem getLast?_rdropWhile {p : Char → Bool} (text : List Char) :
    ∀ c ∈ (text.rdropWhile p).getLast?, p c = false := by
  intro c last
  obtain ⟨some, rfl⟩ := List.mem_getLast?_eq_getLast last
  simpa using List.rdropWhile_last_not p text some

/-- A completion replaces the text from a boundary to an offset: characters of a word, and the one
before them is none. -/
structure ReplacesWord (source : List Char) (offset : Nat) (completion : Completion) : Prop where
  ordered : completion.start ≤ offset
  boundary : Boundary source completion.start
  word : ∃ word, slice? source ⟨completion.start, offset⟩ = some word ∧
    ∀ c ∈ word, isWordPart c = true
  maximal : ∀ c ∈ charBefore? source completion.start, isWordPart c = false

theorem replacesWord_last (before after : List Char) (options : List Snippet) :
    ReplacesWord (before ++ after) (byteLength before)
      { start := byteLength (before.rdropWhile isWordPart), options } := by
  have whole := @List.rdropWhile_append_rtakeWhile _ isWordPart before
  have cut : before ++ after =
      before.rdropWhile isWordPart ++ (before.rtakeWhile isWordPart ++ after) := by
    rw [← List.append_assoc, whole]
  refine ⟨?ordered, ⟨_, _, cut, rfl⟩, ⟨before.rtakeWhile isWordPart, ?slice, ?inside⟩, ?maximal⟩
  case ordered =>
    have bytes := congrArg byteLength whole
    rw [byteLength_append] at bytes
    dsimp only
    omega
  case slice => exact slice?_eq_some_iff.2 ⟨_, after, cut, rfl, congrArg byteLength whole⟩
  case inside => exact fun c hc => List.mem_rtakeWhile_imp hc
  case maximal =>
    dsimp only
    rw [cut, charBefore?_byteLength]
    exact getLast?_rdropWhile before

/-- There is no completion exactly where the offset is past the end or inside a character, or where
no word ends and nobody asks; and each completion replaces a word. -/
theorem completions_replace_word (source : List Char) (offset : Nat) (explicit : Bool) :
    (completeAt source offset explicit = none ↔
      (byteLength source < offset ∨ InsideCharacter source offset) ∨
        (∀ c ∈ charBefore? source offset, isWordPart c = false) ∧ explicit = false) ∧
    ∀ completion, completeAt source offset explicit = some completion →
      ReplacesWord source offset completion ∧ completion.options = snippets := by
  rw [← not_boundary_iff]
  by_cases between : Boundary source offset
  · obtain ⟨before, after, rfl, rfl⟩ := between
    rw [completeAt_of_boundary, charBefore?_byteLength, ← rtakeWhile_eq_nil_iff]
    constructor
    · have inside : Boundary (before ++ after) (byteLength before) := ⟨before, after, rfl, rfl⟩
      simp [inside]
    · intro completion
      split
      · nofun
      · rintro ⟨⟩
        exact ⟨replacesWord_last before after snippets, rfl⟩
  · rw [completeAt_of_not_boundary between]
    exact ⟨iff_of_true rfl (.inl between), nofun⟩

/-- A cursor behind the second line up to its last character, where the word is not ASCII. -/
theorem completions_replace_word_wide :
    completeAt "### é\nä_2x".toList 11 false = some ⟨7, snippets⟩ ∧
      ReplacesWord "### é\nä_2x".toList 11 ⟨7, snippets⟩ := by
  have found : completeAt "### é\nä_2x".toList 11 false = some ⟨7, snippets⟩ := by
    have cut : "### é\nä_2x".toList = "### é\nä_2".toList ++ ['x'] := by decide
    have here : byteLength "### é\nä_2".toList = 11 := by decide
    rw [cut, ← here, completeAt_of_boundary]
    decide +kernel
  exact ⟨found, ((completions_replace_word _ _ _).2 _ found).1⟩

end Editor
end DocModel

import DocModel.Proofs.IdentifierWords

/-!
# DocModel.Proofs.SnakeCase

The words of a text are all there is of it, and snake case keeps the words. So the other cases can
be made of a name in snake case as well as of the name itself.

* `wordsAfter_settled`: small letters begin no word, so that only separators cut.
* `identifierWords_joinWith`: words of such letters are read back between underscores.
* `settled_identifierWords`: the words of an ASCII text are of this kind. Beyond ASCII they need not
  be: some capital letters have no small one.
* `words_kept` puts these together.
-/

namespace DocModel
namespace Text

open Unicode

/-- A character of a word that has no other case to take: it is not capital and its small letter is
itself. -/
structure Settled (c : Char) : Prop where
  inside : isWordSeparator c = false
  small : isUppercase c = false
  own : toLower c = [c]

theorem Settled.beginsWord {c : Char} (h : Settled c) (before after : Option Char) :
    beginsWord before c after = false := by
  cases before with
  | none => rfl
  | some b => simp [Text.beginsWord, h.small]

theorem wordsAfter_settled {before : Option Char} {word piece : List Char}
    (h : ∀ c ∈ piece, Settled c) (rest : List Char) :
    ∃ last, wordsAfter before word (piece ++ rest) = wordsAfter last (word ++ piece) rest := by
  induction piece generalizing before word with
  | nil => exact ⟨before, by rw [List.append_nil, List.nil_append]⟩
  | cons c more ih =>
    obtain ⟨hc, hmore⟩ := List.forall_mem_cons.1 h
    obtain ⟨last, added⟩ := @ih (some c) (word ++ [c]) hmore
    refine ⟨last, ?_⟩
    rw [List.cons_append, wordsAfter, hc.inside, hc.beginsWord, hc.own]
    simpa using added

theorem wordsAfter_joinWith {words : List (List Char)} (filled : ∀ w ∈ words, w ≠ [])
    (h : ∀ w ∈ words, ∀ c ∈ w, Settled c) (before : Option Char) :
    wordsAfter before [] (joinWith ['_'] words) = words := by
  induction words generalizing before with
  | nil => rfl
  | cons word rest ih =>
    obtain ⟨some, filledRest⟩ := List.forall_mem_cons.1 filled
    obtain ⟨own, later⟩ := List.forall_mem_cons.1 h
    cases rest with
    | nil =>
      obtain ⟨last, added⟩ := @wordsAfter_settled before [] word own []
      rw [List.append_nil, List.nil_append] at added
      rw [joinWith, added, wordsAfter, consWord_of_ne_nil some]
    | cons next more =>
      obtain ⟨last, added⟩ :=
        @wordsAfter_settled before [] word own ('_' :: joinWith ['_'] (next :: more))
      -- the underscore ends the word, and the next one begins with nothing before it
      have cut : isWordSeparator '_' = true := rfl
      rw [List.nil_append] at added
      rw [joinWith, List.append_assoc, List.singleton_append, added, wordsAfter, if_pos cut,
        consWord_of_ne_nil some, ih filledRest later]

theorem identifierWords_joinWith {text : List Char}
    (h : ∀ w ∈ identifierWords text, ∀ c ∈ w, Settled c) :
    identifierWords (joinWith ['_'] (identifierWords text)) = identifierWords text :=
  wordsAfter_joinWith (fun _ hw => ne_nil_of_mem_identifierWords _ hw) h none

/-- What is left of an ASCII text in small letters stays as it is. -/
theorem settled_identifierWords {text : List Char} (ascii : ∀ c ∈ text, c.toNat < 0x80) :
    ∀ w ∈ identifierWords text, ∀ c ∈ w, Settled c := by
  intro w hw c hc
  have inside := not_separator_of_mem_identifierWords w hw c hc
  have kept : c ∈ remnant text := flatten_identifierWords text ▸ List.mem_flatten_of_mem hw hc
  obtain ⟨d, hd, image⟩ := List.mem_flatMap.1 kept
  have bound := ascii d (List.mem_of_mem_filter hd)
  rw [toLower, if_pos bound] at image
  obtain rfl := List.mem_singleton.1 image
  have table := forall_ascii (p := fun c => isUppercase c.toLower = false ∧
    toLower c.toLower = [c.toLower]) (by decide) bound
  exact ⟨inside, table.1, table.2⟩

/-- Words that hold all of a text but its separators, in small letters. -/
structure HoldText (text : List Char) (words : List (List Char)) : Prop where
  filled : ∀ w ∈ words, w ≠ []
  bare : ∀ w ∈ words, ∀ c ∈ w, c ≠ '_' ∧ c ≠ '-' ∧ isWhiteSpace c = false
  whole : words.flatten =
    (text.filter fun c => !(c == '_' || c == '-' || isWhiteSpace c)).flatMap toLower

theorem holdText_identifierWords (text : List Char) : HoldText text (identifierWords text) where
  filled := ne_nil_of_mem_identifierWords
  bare := by
    intro w hw c hc
    simpa [isWordSeparator, and_assoc] using not_separator_of_mem_identifierWords w hw c hc
  whole := flatten_identifierWords text

/-- Two texts that are the same name in every case. -/
structure SameName (a b : String) : Prop where
  words : identifierWords a.toList = identifierWords b.toList
  snake : snakeCase a = snakeCase b
  pascal : pascalCase a = pascalCase b
  camel : camelCase a = camelCase b
  screaming : screamingSnakeCase a = screamingSnakeCase b

theorem sameName_of_words {a b : String}
    (h : identifierWords a.toList = identifierWords b.toList) : SameName a b := by
  have snake : snakeCase a = snakeCase b := by
    rw [← String.toList_inj, toList_snakeCase, toList_snakeCase, h]
  have pascal : pascalCase a = pascalCase b := by
    rw [← String.toList_inj, toList_pascalCase, toList_pascalCase, h]
  exact ⟨h, snake, pascal, by rw [camelCase, camelCase, pascal],
    by rw [screamingSnakeCase, screamingSnakeCase, snake]⟩

/-- The words of any text hold it, and snake case keeps the words of an ASCII text. -/
theorem words_kept (s : String) : HoldText s.toList (identifierWords s.toList) ∧
    ((∀ c ∈ s.toList, c.toNat < 0x80) → SameName (snakeCase s) s) := by
  refine ⟨holdText_identifierWords s.toList, fun ascii => sameName_of_words ?_⟩
  rw [toList_snakeCase]
  exact identifierWords_joinWith (settled_identifierWords ascii)

/-- Separators in front, behind and in a row, an acronym, and digits before a capital letter. -/
theorem words_kept_acronym :
    (∀ c ∈ "-_HTTPServer2Go.v2  X_".toList, c.toNat < 0x80) ∧
      snakeCase "-_HTTPServer2Go.v2  X_" = "http_server2_go.v2_x" ∧
      SameName (snakeCase "-_HTTPServer2Go.v2  X_") "-_HTTPServer2Go.v2  X_" := by
  have ascii : ∀ c ∈ "-_HTTPServer2Go.v2  X_".toList, c.toNat < 0x80 :=
    forall_mem_of_all (by decide)
  exact ⟨ascii, by decide, (words_kept _).2 ascii⟩

/-- A capital letter without a small one begins a word behind a small letter, but not behind a
capital one. -/
example : snakeCase "B𝐀" = "b𝐀" ∧ snakeCase (snakeCase "B𝐀") = "b_𝐀" := by decide +kernel

end Text
end DocModel

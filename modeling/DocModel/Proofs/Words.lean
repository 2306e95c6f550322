import DocModel.Proofs.Splitting
import DocModel.Proofs.Validation.Forms
import DocModel.Text.Words

/-!
# DocModel.Proofs.Words

What is left of a name of letters, digits and underscores when it is written in another case.

* `SmallWord`: the words of such a name are not empty and hold small letters and digits;
* `snakeCase_inj`, `uppercase_joinWith_inj`: between underscores the words are read back;
* `pascalCase_inj`: a capital letter shows where a word begins, but a digit does not. So what is
  read back are the `runs`: a word that begins with a digit belongs to the word before it.
-/

namespace DocModel
namespace Text

open Unicode Validation

/-! ## Letters -/

/-- A small letter or a digit of ASCII. -/
abbrev SmallChar (c : Char) : Prop := c.isLower = true ∨ c.isDigit = true

/-- A text of small letters and digits that is not empty. -/
structure SmallWord (word : List Char) : Prop where
  ne_nil : word ≠ []
  small : ∀ c ∈ word, SmallChar c

theorem letter_of_isLower {c : Char} (h : c.isLower = true) : Letter c := by
  have classes : c.isAlpha = (c.isUpper || c.isLower) := rfl
  rw [← isAlpha_iff, classes, h, Bool.or_true]

theorem SmallChar.wordChar {c : Char} (h : SmallChar c) : WordChar c :=
  h.imp letter_of_isLower fun digit => .inl (isDigit_iff.1 digit)

theorem SmallChar.of_ascii {p : Char → Prop}
    (ascii : ∀ n < 0x80, SmallChar (Char.ofNat n) → p (Char.ofNat n)) {c : Char}
    (h : SmallChar c) : p c := by
  have hc := ascii c.toNat (wordChar_bounds h.wordChar).2
  rw [Char.ofNat_toNat] at hc
  exact hc h

theorem SmallChar.ne_underscore {c : Char} (h : SmallChar c) : c ≠ '_' :=
  h.of_ascii (p := (· ≠ '_')) (by decide)

theorem SmallChar.not_upper {c : Char} (h : SmallChar c) : c.isUpper = false :=
  h.of_ascii (p := fun c => c.isUpper = false) (by decide)

theorem SmallChar.toUpper_eq {c : Char} (h : SmallChar c) : toUpper c = [c.toUpper] :=
  if_pos (wordChar_bounds h.wordChar).2

theorem SmallChar.toLower_toUpper {c : Char} (h : SmallChar c) : c.toUpper.toLower = c :=
  h.of_ascii (p := fun c => c.toUpper.toLower = c) (by decide)

theorem toLower_wordChar {c : Char} (h : WordChar c) : toLower c = [c.toLower] :=
  if_pos (wordChar_bounds h).2

theorem isWordSeparator_wordChar {c : Char} (h : WordChar c) :
    isWordSeparator c = true ↔ c = '_' := by
  have other : c ≠ '-' := h.of_ascii (p := (· ≠ '-')) (by decide)
  simp [isWordSeparator, other, wordChar_not_white h]

theorem smallChar_toLower {c : Char} (h : WordChar c) (other : c ≠ '_') : SmallChar c.toLower :=
  h.of_ascii (p := fun c => c ≠ '_' → SmallChar c.toLower) (by decide) other

/-! ## The words of a name -/

theorem forall_mem_consWord {p : List Char → Prop} {word : List Char} {words : List (List Char)}
    (first : word ≠ [] → p word) (later : ∀ w ∈ words, p w) : ∀ w ∈ consWord word words, p w := by
  rw [consWord]
  split
  · exact later
  · next some => exact List.forall_mem_cons.2 ⟨first (by simpa using some), later⟩

theorem smallWord_wordsAfter {before : Option Char} {word name : List Char}
    (begun : ∀ c ∈ word, SmallChar c) (written : ∀ c ∈ name, WordChar c) :
    ∀ w ∈ wordsAfter before word name, SmallWord w := by
  induction name generalizing before word with
  | nil => exact forall_mem_consWord (⟨·, begun⟩) fun _ h => absurd h List.not_mem_nil
  | cons c rest ih =>
    obtain ⟨hc, hrest⟩ := List.forall_mem_cons.1 written
    have nothing : ∀ d ∈ ([] : List Char), SmallChar d := fun _ h => absurd h List.not_mem_nil
    rw [wordsAfter]
    split
    · exact forall_mem_consWord (⟨·, begun⟩) (ih nothing hrest)
    · next inside =>
      have small : ∀ d ∈ toLower c, SmallChar d := by
        rw [toLower_wordChar hc]
        exact List.forall_mem_singleton.2
          (smallChar_toLower hc fun same => inside ((isWordSeparator_wordChar hc).2 same))
      split
      · exact forall_mem_consWord (⟨·, begun⟩) (ih small hrest)
      · exact ih (List.forall_mem_append.2 ⟨begun, small⟩) hrest

theorem smallWord_identifierWords {name : List Char} (written : ∀ c ∈ name, WordChar c) :
    ∀ w ∈ identifierWords name, SmallWord w :=
  smallWord_wordsAfter (fun _ h => absurd h List.not_mem_nil) written

theorem consWord_nil (words : List (List Char)) : consWord [] words = words := rfl

theorem consWord_of_ne_nil {word : List Char} (h : word ≠ []) (words : List (List Char)) :
    consWord word words = word :: words :=
  if_neg (by simpa using h)

/-- The word that is begun is the beginning of the first word. -/
theorem wordsAfter_begun {before : Option Char} {word : List Char} (begun : word ≠ [])
    (name : List Char) :
    ∃ ending more, wordsAfter before word name = (word ++ ending) :: more := by
  induction name generalizing before word with
  | nil => exact ⟨[], [], by rw [wordsAfter, consWord_of_ne_nil begun, List.append_nil]⟩
  | cons c rest ih =>
    rw [wordsAfter]
    split
    · exact ⟨[], _, by rw [consWord_of_ne_nil begun, List.append_nil]⟩
    · split
      · exact ⟨[], _, by rw [consWord_of_ne_nil begun, List.append_nil]⟩
      · obtain ⟨ending, more, same⟩ :=
          @ih (some c) _ (List.append_ne_nil_of_left_ne_nil begun (toLower c))
        exact ⟨toLower c ++ ending, more, by rw [same, List.append_assoc]⟩

/-! ## Joined words -/

theorem head?_joinWith {sep word : List Char} {more : List (List Char)} (h : word ≠ []) :
    (joinWith sep (word :: more)).head? = word.head? := by
  cases more with
  | nil => rfl
  | cons next rest =>
    rw [joinWith, List.append_assoc, List.head?_append_of_ne_nil _ h]

/-- What stands between pieces without it is found by cutting there. -/
theorem splitOn_joinWith {sep : Char} {pieces : List (List Char)} (some : pieces ≠ [])
    (bare : ∀ piece ∈ pieces, sep ∉ piece) : splitOn sep (joinWith [sep] pieces) = pieces := by
  induction pieces with
  | nil => exact absurd rfl some
  | cons piece rest ih =>
    obtain ⟨first, later⟩ := List.forall_mem_cons.1 bare
    have other : ∀ c ∈ piece, (c == sep) = false := fun c hc =>
      beq_eq_false_iff_ne.2 fun same => first (same ▸ hc)
    cases rest with
    | nil => exact splitWhere_of_forall other
    | cons next more =>
      have cut := ih (List.cons_ne_nil _ _) later
      rw [splitOn] at cut
      rw [joinWith, List.append_assoc, List.singleton_append, splitOn,
        splitWhere_append_cons other (beq_self_eq_true sep), cut]

theorem joinWith_inj {sep : Char} {first second : List (List Char)}
    (one : first ≠ [] ∧ ∀ piece ∈ first, sep ∉ piece)
    (two : second ≠ [] ∧ ∀ piece ∈ second, sep ∉ piece) :
    joinWith [sep] first = joinWith [sep] second ↔ first = second := by
  refine ⟨fun same => ?_, congrArg _⟩
  rw [← splitOn_joinWith one.1 one.2, same, splitOn_joinWith two.1 two.2]

theorem joinWith_append {sep : List Char} {first second : List (List Char)} (one : first ≠ [])
    (two : second ≠ []) :
    joinWith sep (first ++ second) = joinWith sep first ++ sep ++ joinWith sep second := by
  induction first with
  | nil => exact absurd rfl one
  | cons piece rest ih =>
    cases rest with
    | nil =>
      cases second with
      | nil => exact absurd rfl two
      | cons next more => rfl
    | cons next more =>
      have later := ih (List.cons_ne_nil _ _)
      rw [List.cons_append] at later
      rw [List.cons_append, List.cons_append, joinWith, joinWith, later]
      simp only [List.append_assoc]

theorem mem_joinWith {sep : Char} {c : Char} {pieces : List (List Char)}
    (h : c ∈ joinWith [sep] pieces) : c = sep ∨ ∃ piece ∈ pieces, c ∈ piece := by
  induction pieces with
  | nil => cases h
  | cons piece rest ih =>
    cases rest with
    | nil => exact .inr ⟨piece, List.mem_cons_self, h⟩
    | cons next more =>
      rw [joinWith, List.append_assoc, List.mem_append, List.singleton_append, List.mem_cons] at h
      rcases h with first | rfl | later
      · exact .inr ⟨piece, List.mem_cons_self, first⟩
      · exact .inl rfl
      · exact (ih later).imp_right fun ⟨found, mem, hc⟩ => ⟨found, List.mem_cons_of_mem _ mem, hc⟩

/-- The last character is one of a piece if no piece is empty. -/
theorem getLast?_joinWith {sep : Char} {pieces : List (List Char)}
    (some : ∀ piece ∈ pieces, piece ≠ []) :
    ∀ c ∈ (joinWith [sep] pieces).getLast?, ∃ piece ∈ pieces, c ∈ piece := by
  induction pieces with
  | nil => intro c hc; cases hc
  | cons piece rest ih =>
    obtain ⟨first, later⟩ := List.forall_mem_cons.1 some
    cases rest with
    | nil => exact fun c hc => ⟨piece, List.mem_cons_self, List.mem_of_mem_getLast? hc⟩
    | cons next more =>
      have filled : joinWith [sep] (next :: more) ≠ [] := by
        intro nothing
        have first := @head?_joinWith [sep] next more (later next List.mem_cons_self)
        rw [nothing] at first
        exact later next List.mem_cons_self (List.head?_eq_none_iff.1 first.symm)
      intro c hc
      rw [joinWith, List.getLast?_append_of_ne_nil _ filled] at hc
      obtain ⟨found, mem, inside⟩ := ih later c hc
      exact ⟨found, List.mem_cons_of_mem _ mem, inside⟩

/-! ## Small letters between underscores -/

theorem SmallWord.underscore_notMem {word : List Char} (h : SmallWord word) : '_' ∉ word :=
  fun mem => (h.small _ mem).ne_underscore rfl

/-- Words that are not empty are read back also if there are none. -/
theorem filter_splitOn_joinWith {words : List (List Char)} (h : ∀ w ∈ words, SmallWord w) :
    (splitOn '_' (joinWith ['_'] words)).filter (!·.isEmpty) = words := by
  cases words with
  | nil => rfl
  | cons first rest =>
    rw [splitOn_joinWith (List.cons_ne_nil _ _) fun w hw => (h w hw).underscore_notMem]
    exact List.filter_eq_self.2 fun w hw => by simpa using (h w hw).ne_nil

theorem joinWith_smallWord_inj {first second : List (List Char)} (one : ∀ w ∈ first, SmallWord w)
    (two : ∀ w ∈ second, SmallWord w) :
    joinWith ['_'] first = joinWith ['_'] second ↔ first = second := by
  refine ⟨fun same => ?_, congrArg _⟩
  rw [← filter_splitOn_joinWith one, same, filter_splitOn_joinWith two]

/-! ## Capital letters between underscores -/

theorem uppercase_append (first second : List Char) :
    uppercase (first ++ second) = uppercase first ++ uppercase second :=
  List.flatMap_append

theorem map_toLower_uppercase {text : List Char} (h : ∀ c ∈ text, SmallChar c ∨ c = '_') :
    (uppercase text).map Char.toLower = text := by
  induction text with
  | nil => rfl
  | cons c rest ih =>
    obtain ⟨hc, hrest⟩ := List.forall_mem_cons.1 h
    have back : (toUpper c).map Char.toLower = [c] := by
      rcases hc with small | rfl
      · rw [small.toUpper_eq, List.map_singleton, small.toLower_toUpper]
      · decide
    have later := ih hrest
    rw [uppercase] at later
    rw [uppercase, List.flatMap_cons, List.map_append, back, later, List.singleton_append]

theorem uppercase_joinWith_inj {first second : List (List Char)}
    (one : first ≠ [] ∧ ∀ w ∈ first, ∀ c ∈ w, SmallChar c)
    (two : second ≠ [] ∧ ∀ w ∈ second, ∀ c ∈ w, SmallChar c) :
    uppercase (joinWith ['_'] first) = uppercase (joinWith ['_'] second) ↔ first = second := by
  have bare {words : List (List Char)} (small : ∀ w ∈ words, ∀ c ∈ w, SmallChar c) :
      ∀ w ∈ words, '_' ∉ w := fun w hw mem => (small w hw '_' mem).ne_underscore rfl
  have back {words : List (List Char)} (small : ∀ w ∈ words, ∀ c ∈ w, SmallChar c) :
      (uppercase (joinWith ['_'] words)).map Char.toLower = joinWith ['_'] words :=
    map_toLower_uppercase fun c hc =>
      (mem_joinWith hc).symm.imp_left fun ⟨w, hw, inside⟩ => small w hw c inside
  rw [← joinWith_inj ⟨one.1, bare one.2⟩ ⟨two.1, bare two.2⟩]
  refine ⟨fun same => ?_, congrArg _⟩
  rw [← back one.2, same, back two.2]

/-! ## Capital letters at the beginning of words -/

/-- The words, where one that begins with a digit belongs to the word before it. -/
def runs : List (List Char) → List (List Char)
  | [] => []
  | word :: rest =>
    match runs rest with
    | [] => [word]
    | run :: more =>
      if run.head?.any Char.isDigit then (word ++ run) :: more else word :: run :: more

theorem capitalize_append {word : List Char} (h : word ≠ []) (ending : List Char) :
    capitalize (word ++ ending) = capitalize word ++ ending := by
  cases word with
  | nil => exact absurd rfl h
  | cons c rest => rw [List.cons_append, capitalize, capitalize, List.append_assoc]

theorem capitalize_digit {word : List Char} (h : word.head?.any Char.isDigit = true) :
    capitalize word = word := by
  cases word with
  | nil => rfl
  | cons c rest =>
    have same : toUpper c = [c] := by
      have digit : SmallChar c := .inr (by simpa using h)
      have plain := digit.of_ascii (p := fun c => c.isDigit = true → c.toUpper = c) (by decide)
      rw [digit.toUpper_eq, plain (by simpa using h)]
    rw [capitalize, same, List.singleton_append]

theorem smallWord_runs {words : List (List Char)} (h : ∀ w ∈ words, SmallWord w) :
    ∀ r ∈ runs words, SmallWord r := by
  induction words with
  | nil => exact h
  | cons word rest ih =>
    obtain ⟨hw, hrest⟩ := List.forall_mem_cons.1 h
    have later := ih hrest
    rw [runs]
    split
    · exact List.forall_mem_singleton.2 hw
    · next run more same =>
      rw [same] at later
      split
      · obtain ⟨hr, hmore⟩ := List.forall_mem_cons.1 later
        refine List.forall_mem_cons.2 ⟨⟨?_, ?_⟩, hmore⟩
        · exact List.append_ne_nil_of_left_ne_nil hw.ne_nil _
        · exact List.forall_mem_append.2 ⟨hw.small, hr.small⟩
      · exact List.forall_mem_cons.2 ⟨hw, later⟩

theorem head?_tail_runs (words : List (List Char)) :
    ∀ r ∈ (runs words).tail, r.head?.any Char.isDigit = false := by
  induction words with
  | nil => exact fun _ h => absurd h List.not_mem_nil
  | cons word rest ih =>
    rw [runs]
    split
    · exact fun _ h => absurd h List.not_mem_nil
    · next run more same =>
      rw [same] at ih
      split
      · exact ih
      · next letter => exact List.forall_mem_cons.2 ⟨by simpa using letter, ih⟩

theorem flatMap_capitalize_runs {words : List (List Char)} (h : ∀ w ∈ words, SmallWord w) :
    (runs words).flatMap capitalize = words.flatMap capitalize := by
  induction words with
  | nil => rfl
  | cons word rest ih =>
    obtain ⟨hw, hrest⟩ := List.forall_mem_cons.1 h
    have later := ih hrest
    rw [runs, List.flatMap_cons, ← later]
    split
    · next same => rw [same, List.flatMap_singleton, List.flatMap_nil, List.append_nil]
    · next run more same =>
      rw [same]
      split
      · next digit =>
        rw [List.flatMap_cons, List.flatMap_cons, capitalize_append hw.ne_nil,
          capitalize_digit digit, List.append_assoc]
      · rw [List.flatMap_cons]

/-- Runs of small letters and digits, all but the first beginning with a letter. -/
structure IsRuns (rs : List (List Char)) : Prop where
  small : ∀ r ∈ rs, SmallWord r
  letters : ∀ r ∈ rs.tail, r.head?.any Char.isDigit = false

theorem isRuns_runs {words : List (List Char)} (h : ∀ w ∈ words, SmallWord w) :
    IsRuns (runs words) :=
  ⟨smallWord_runs h, head?_tail_runs words⟩

theorem IsRuns.tail {r : List Char} {rs : List (List Char)} (h : IsRuns (r :: rs)) : IsRuns rs :=
  ⟨fun x hx => h.small x (List.mem_cons_of_mem r hx),
    fun x hx => h.letters x (List.mem_of_mem_tail hx)⟩

theorem IsRuns.upper {r : List Char} {rs : List (List Char)} (h : IsRuns (r :: rs)) :
    ∀ c ∈ (rs.flatMap capitalize).head?, c.isUpper = true := by
  cases rs with
  | nil => exact fun _ hc => absurd hc (Option.not_mem_none _)
  | cons next more =>
    obtain ⟨some, small⟩ := h.small next (List.mem_cons_of_mem r List.mem_cons_self)
    have letter := h.letters next List.mem_cons_self
    cases next with
    | nil => exact absurd rfl some
    | cons d rest =>
      have hd : SmallChar d := small d List.mem_cons_self
      have lower : d.isLower = true := hd.resolve_right (by simpa using letter)
      intro c hc
      rw [List.flatMap_cons, capitalize, hd.toUpper_eq] at hc
      obtain rfl : d.toUpper = c := by simpa using hc
      exact hd.of_ascii
        (p := fun d => d.isLower = true → d.toUpper.isUpper = true) (by decide) lower

/-- The first run is what stands before the second capital letter. -/
theorem IsRuns.begins {r : List Char} {rs : List (List Char)} (h : IsRuns (r :: rs)) :
    ∃ c rest, r = c :: rest ∧ SmallChar c ∧
      (r :: rs).flatMap capitalize = c.toUpper :: (rest ++ rs.flatMap capitalize) ∧
      (rest ++ rs.flatMap capitalize).takeWhile (!·.isUpper) = rest := by
  obtain ⟨some, small⟩ := h.small r List.mem_cons_self
  cases r with
  | nil => exact absurd rfl some
  | cons c rest =>
    obtain ⟨hc, hrest⟩ := List.forall_mem_cons.1 small
    refine ⟨c, rest, rfl, hc, ?_, ?_⟩
    · rw [List.flatMap_cons, capitalize, hc.toUpper_eq, List.append_assoc, List.singleton_append]
    · refine takeWhile_append_of_stop (fun d hd => ?_) fun d hd => ?_
      · rw [(hrest d hd).not_upper, Bool.not_false]
      · rw [h.upper d hd, Bool.not_true]

/-- Runs are read back from the text that they make up: a capital letter begins each of them. -/
theorem eq_of_flatMap_capitalize {rs qs : List (List Char)} (hr : IsRuns rs) (hq : IsRuns qs)
    (same : rs.flatMap capitalize = qs.flatMap capitalize) : rs = qs := by
  induction rs generalizing qs with
  | nil =>
    cases qs with
    | nil => rfl
    | cons q more =>
      obtain ⟨c, rest, -, -, written, -⟩ := hq.begins
      rw [written] at same
      cases same
  | cons r rs ih =>
    obtain ⟨c, rest, rfl, hc, written, stop⟩ := hr.begins
    cases qs with
    | nil =>
      rw [written] at same
      cases same
    | cons q more =>
      obtain ⟨d, ending, rfl, hd, written', stop'⟩ := hq.begins
      rw [written, written'] at same
      -- both begin with one capital letter, and the first run ends where the next one stands
      obtain ⟨first, later⟩ := List.cons.inj same
      have letter : c = d := by rw [← hc.toLower_toUpper, first, hd.toLower_toUpper]
      have word : rest = ending := by rw [← stop, later, stop']
      subst letter word
      rw [ih hr.tail hq.tail (List.append_cancel_left later)]

theorem flatMap_capitalize_inj {first second : List (List Char)} (one : ∀ w ∈ first, SmallWord w)
    (two : ∀ w ∈ second, SmallWord w) :
    first.flatMap capitalize = second.flatMap capitalize ↔ runs first = runs second := by
  rw [← flatMap_capitalize_runs one, ← flatMap_capitalize_runs two]
  exact ⟨eq_of_flatMap_capitalize (isRuns_runs one) (isRuns_runs two), congrArg _⟩

theorem wordChar_flatMap_capitalize {words : List (List Char)} (h : ∀ w ∈ words, SmallWord w) :
    ∀ c ∈ words.flatMap capitalize, WordChar c := by
  intro c hc
  obtain ⟨word, hw, inside⟩ := List.mem_flatMap.1 hc
  cases word with
  | nil => cases inside
  | cons d rest =>
    have hd := (h _ hw).small d List.mem_cons_self
    rw [capitalize, hd.toUpper_eq, List.singleton_append, List.mem_cons] at inside
    rcases inside with rfl | inside
    · exact hd.of_ascii (p := fun d => isWordChar d.toUpper = true) (by decide) |> isWordChar_iff.1
    · exact ((h _ hw).small c (List.mem_cons_of_mem d inside)).wordChar

/-! ## Names -/

theorem toList_snakeCase (name : String) :
    (snakeCase name).toList = joinWith ['_'] (identifierWords name.toList) :=
  String.toList_ofList

/-- Behind the underscores a name begins with the same character in small letters. -/
theorem head?_joinWith_wordsAfter {before : Option Char} {name : List Char}
    (written : ∀ c ∈ name, WordChar c) :
    (joinWith ['_'] (wordsAfter before [] name)).head? =
      (name.dropWhile (· == '_')).head?.map Char.toLower := by
  induction name generalizing before with
  | nil => rfl
  | cons c rest ih =>
    obtain ⟨hc, hrest⟩ := List.forall_mem_cons.1 written
    by_cases under : c = '_'
    · have gone : (c :: rest).dropWhile (· == '_') = rest.dropWhile (· == '_') :=
        List.dropWhile_cons_of_pos (by simpa using under)
      rw [wordsAfter, if_pos ((isWordSeparator_wordChar hc).2 under), consWord_nil, ih hrest, gone]
    · have inside : ¬ isWordSeparator c = true := fun sep =>
        under ((isWordSeparator_wordChar hc).1 sep)
      have begun : wordsAfter before [] (c :: rest) = wordsAfter (some c) [c.toLower] rest := by
        rw [wordsAfter, if_neg inside, consWord_nil, List.nil_append, toLower_wordChar hc, ite_self]
      obtain ⟨ending, more, words⟩ :=
        @wordsAfter_begun (some c) [c.toLower] (List.cons_ne_nil c.toLower []) rest
      have first := @head?_joinWith ['_'] _ more (List.cons_ne_nil c.toLower ending)
      rw [begun, words, List.singleton_append, first,
        List.dropWhile_cons_of_neg (by simpa using under)]
      rfl

theorem toList_screamingSnakeCase (name : String) :
    (screamingSnakeCase name).toList =
      uppercase (joinWith ['_'] (identifierWords name.toList)) := by
  rw [screamingSnakeCase, onChars, String.toList_ofList, toList_snakeCase]

theorem toList_pascalCase (name : String) :
    (pascalCase name).toList = (identifierWords name.toList).flatMap capitalize :=
  String.toList_ofList

section

variable {a b : String} (ha : ∀ c ∈ a.toList, WordChar c) (hb : ∀ c ∈ b.toList, WordChar c)
include ha

theorem smallChar_snakeCase : ∀ c ∈ (snakeCase a).toList, SmallChar c ∨ c = '_' := by
  intro c hc
  rw [toList_snakeCase] at hc
  exact (mem_joinWith hc).symm.imp_left fun ⟨word, hw, inside⟩ =>
    (smallWord_identifierWords ha word hw).small c inside

theorem getLast?_snakeCase : ∀ c ∈ (snakeCase a).toList.getLast?, SmallChar c := by
  intro c hc
  rw [toList_snakeCase] at hc
  have words := smallWord_identifierWords ha
  obtain ⟨word, hw, inside⟩ := getLast?_joinWith (fun word hw => (words word hw).ne_nil) c hc
  exact (words word hw).small c inside

theorem head?_snakeCase : ∀ c ∈ (snakeCase a).toList.head?, SmallChar c := by
  rw [toList_snakeCase]
  have words := smallWord_identifierWords ha
  cases written : identifierWords a.toList with
  | nil => exact fun _ hc => absurd hc (Option.not_mem_none _)
  | cons word more =>
    rw [written] at words
    obtain ⟨some, small⟩ := words word List.mem_cons_self
    rw [head?_joinWith some]
    exact fun c hc => small c (List.mem_of_mem_head? hc)

/-- Written in small letters a name begins with a letter if there is one behind the underscores. -/
theorem head?_snakeCase_isLower :
    (snakeCase a).toList.head?.any Char.isLower = true ↔
      ∃ c ∈ (a.toList.dropWhile (· == '_')).head?, Letter c := by
  rw [toList_snakeCase, identifierWords, head?_joinWith_wordsAfter ha]
  cases begun : (a.toList.dropWhile (· == '_')).head? with
  | none => simp
  | some c =>
    have word : WordChar c :=
      ha c ((List.dropWhile_suffix _).mem (List.mem_of_mem_head? begun))
    have letter : c.isAlpha = c.toLower.isLower :=
      word.of_ascii (p := fun c => c.isAlpha = c.toLower.isLower) (by decide)
    rw [Option.map_some, Option.any_some, ← letter, isAlpha_iff]
    exact ⟨fun found => ⟨c, rfl, found⟩, fun ⟨_, same, found⟩ => Option.mem_some.1 same ▸ found⟩

theorem wordChar_pascalCase : ∀ c ∈ (pascalCase a).toList, WordChar c := by
  rw [toList_pascalCase]
  exact wordChar_flatMap_capitalize (smallWord_identifierWords ha)

include hb

/-- Two names are written alike in small letters exactly if they have the same words. -/
theorem snakeCase_inj :
    snakeCase a = snakeCase b ↔ identifierWords a.toList = identifierWords b.toList := by
  rw [← String.toList_inj, toList_snakeCase, toList_snakeCase]
  exact joinWith_smallWord_inj (smallWord_identifierWords ha) (smallWord_identifierWords hb)

/-- Two names are written alike without underscores exactly if they have the same runs. -/
theorem pascalCase_inj :
    pascalCase a = pascalCase b ↔
      runs (identifierWords a.toList) = runs (identifierWords b.toList) := by
  rw [← String.toList_inj, toList_pascalCase, toList_pascalCase]
  exact flatMap_capitalize_inj (smallWord_identifierWords ha) (smallWord_identifierWords hb)

end

end Text
end DocModel

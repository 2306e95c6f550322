import DocModel.Proofs.Dialect.AttributeLines

/-!
# DocModel.Proofs.Dialect.MemberGrammar

The grammar of the lines of an enumeration.

* `MemberText` says what a line that gives a member looks like, and `Ignored` which lines say
  nothing;
* `quotedValue?_eq_some_iff` and `memberMapping?_eq_some_iff` say that the two readers of a line
  follow this grammar;
* `readMemberLine_eq_mapping_iff`, `readMemberLine_eq_skip_iff` and
  `readMemberLine_eq_malformed_iff` say what a line is.
-/

namespace DocModel
namespace Dialect

open Target.Markdown Text Validation

/-- A line gives a member: between white space there are a name, an equals sign and a value between
quotes of one kind, with at most one comma behind them. -/
inductive MemberText (key value : List Char) : List Char → Prop where
  | intro {before between after ending : List Char} {quote : Char}
    (name : AttributeName key)
    (blank : isBlank before = true ∧ isBlank between = true ∧ isBlank after = true)
    (kind : quote = '"' ∨ quote = '\'')
    (bare : quote ∉ value)
    (closing : trim ending = [] ∨ trim ending = [',']) :
    MemberText key value
      (before ++ (key ++ (between ++ '=' :: (after ++ quote :: (value ++ quote :: ending)))))

/-- A line is empty or a comment. -/
def Ignored (line : List Char) : Prop :=
  trim line = [] ∨ ['#'] <+: trim line ∨ ['/', '/'] <+: trim line

/-! ## Pieces of a line -/

theorem isBlank_takeWhile (line : List Char) :
    isBlank (line.takeWhile Unicode.isWhiteSpace) = true :=
  List.all_takeWhile

theorem takeWhile_append_trimStart (text : List Char) :
    text.takeWhile Unicode.isWhiteSpace ++ trimStart text = text :=
  List.takeWhile_append_dropWhile

theorem trimStart_blank_append {blank text : List Char} (h : isBlank blank = true)
    (begun : ∀ c ∈ text.head?, Unicode.isWhiteSpace c = false) :
    trimStart (blank ++ text) = text := by
  rw [trimStart, List.dropWhile_append_of_pos (List.all_eq_true.1 h), dropWhile_eq_self begun]

theorem takeWhile_append_drop (p : Char → Bool) (text : List Char) :
    text.takeWhile p ++ text.drop (text.takeWhile p).length = text :=
  List.prefix_iff_eq_append.1 (List.takeWhile_prefix p)

theorem not_isNamePart_of_blank {blank : List Char} (h : isBlank blank = true)
    (rest : List Char) : ∀ c ∈ (blank ++ '=' :: rest).head?, isNamePart c = false := by
  intro c hc
  cases blank with
  | nil =>
    cases hc
    decide
  | cons d more =>
    cases hc
    refine Bool.eq_false_iff.2 fun part => ?_
    have white := List.all_eq_true.1 h c List.mem_cons_self
    rw [wordChar_not_white (isWordChar_iff.1 part)] at white
    cases white

/-! ## Members -/

theorem quotedValue?_eq_some_iff {text value : List Char} :
    quotedValue? text = some value ↔ ∃ quote ending, (quote = '"' ∨ quote = '\'') ∧ quote ∉ value ∧
      (trim ending = [] ∨ trim ending = [',']) ∧ text = quote :: (value ++ quote :: ending) := by
  constructor
  · intro h
    cases text with
    | nil => cases h
    | cons quote rest =>
      rw [quotedValue?] at h
      split at h
      · cases h
      · next known =>
        have kind : quote = '"' ∨ quote = '\'' := by
          simp only [Bool.and_eq_true, bne_iff_ne, not_and, Classical.not_not] at known
          by_cases double : quote = '"'
          · exact .inl double
          · exact .inr (known double)
        have whole := takeWhile_append_drop (· != quote) rest
        have bare : quote ∉ rest.takeWhile (· != quote) := fun hm => by
          simpa using List.all_eq_true.1 (List.all_takeWhile (l := rest)) quote hm
        dsimp only at h
        split at h
        · next stop ending found =>
          -- what ends the value is its quote
          have last : stop = quote := by
            have dropped : rest.dropWhile (· != quote) = stop :: ending := by
              rw [← found]
              exact List.append_cancel_left ((List.takeWhile_append_dropWhile).trans whole.symm)
            have head := List.head?_dropWhile_not (· != quote) rest
            rw [dropped] at head
            simpa using head
          split at h
          · next closing =>
            cases h
            refine ⟨quote, ending, kind, bare, by simpa using closing, ?_⟩
            rw [← last, ← found, last, whole]
          · cases h
        · cases h
  · rintro ⟨quote, ending, kind, bare, closing, rfl⟩
    have known : (quote != '"' && quote != '\'') = false := by
      rcases kind with rfl | rfl <;> decide
    have other : ∀ c ∈ value, (c != quote) = true := by
      intro c hc
      have ne : c ≠ quote := fun e => bare (e ▸ hc)
      simpa using ne
    have taken : (value ++ quote :: ending).takeWhile (· != quote) = value :=
      takeWhile_append_of_stop other (by simp)
    have last : ((trim ending).isEmpty || trim ending == [',']) = true := by simpa using closing
    rw [quotedValue?, known]
    simp only [Bool.false_eq_true, if_false, taken, List.drop_left, last, if_true]

theorem attributeName_iff {key : List Char} :
    AttributeName key ↔ (∃ c ∈ key.head?, isNameStart c = true) ∧
      ∀ c ∈ key, isNamePart c = true := by
  constructor
  · intro h
    obtain ⟨c, first, start⟩ := h.exists_head?
    exact ⟨⟨c, first, isLetterOrUnderscore_iff.2 start⟩, fun c hc =>
      isWordChar_iff.2 (attributeName_wordChar h c hc)⟩
  · rintro ⟨⟨c, first, start⟩, part⟩
    exact .of_head? first (isLetterOrUnderscore_iff.1 start)
      fun d hd => isWordChar_iff.1 (part d hd)

/-- A line is a member exactly if it is one by the grammar. -/
theorem memberMapping?_eq_some_iff {line key value : List Char} :
    memberMapping? line = some (key, value) ↔ MemberText key value line := by
  constructor
  · intro h
    rw [memberMapping?] at h
    split at h
    · next c rest first more =>
      split at h
      · next start =>
        obtain ⟨quoted, inside, same⟩ := Option.map_eq_some_iff.1 h
        obtain ⟨taken, rfl⟩ := Prod.mk.inj same
        obtain ⟨quote, ending, kind, bare, closing, later⟩ := quotedValue?_eq_some_iff.1 inside
        have name : AttributeName key := taken ▸
          attributeName_iff.2 ⟨⟨c, first, start⟩, List.all_eq_true.1 List.all_takeWhile⟩
        -- every piece of the line is what is taken of it before what is left
        have left := takeWhile_append_drop isNamePart (trimStart line)
        rw [taken] at more left
        have shape : line = line.takeWhile Unicode.isWhiteSpace ++ (key ++
            (((trimStart line).drop key.length).takeWhile Unicode.isWhiteSpace ++
              '=' :: (rest.takeWhile Unicode.isWhiteSpace ++
                quote :: (quoted ++ quote :: ending)))) := by
          rw [← later, takeWhile_append_trimStart, ← more, takeWhile_append_trimStart, left,
            takeWhile_append_trimStart]
        rw [shape]
        exact .intro name ⟨isBlank_takeWhile _, isBlank_takeWhile _, isBlank_takeWhile _⟩ kind bare
          closing
      · cases h
    · cases h
  · rintro @⟨before, between, after, ending, quote, name, ⟨first, second, third⟩, kind, bare,
      closing⟩
    obtain ⟨⟨c, head, start⟩, part⟩ := attributeName_iff.1 name
    obtain ⟨tail, rfl⟩ := List.head?_eq_some_iff.1 head
    have word := isWordChar_iff.1 (part c List.mem_cons_self)
    -- each piece stops where the next one begins
    have begun : trimStart (before ++ (c :: tail ++ (between ++ '=' :: (after ++ quote ::
        (value ++ quote :: ending))))) = c :: tail ++ (between ++ '=' :: (after ++ quote ::
          (value ++ quote :: ending))) :=
      trimStart_blank_append first fun d hd => by
        cases hd
        exact wordChar_not_white word
    have name := takeWhile_append_of_stop part
      (not_isNamePart_of_blank second (after ++ quote :: (value ++ quote :: ending)))
    have equals : trimStart (between ++ '=' :: (after ++ quote :: (value ++ quote :: ending))) =
        '=' :: (after ++ quote :: (value ++ quote :: ending)) :=
      trimStart_blank_append second fun d hd => by
        cases hd
        decide
    have inside : trimStart (after ++ quote :: (value ++ quote :: ending)) =
        quote :: (value ++ quote :: ending) :=
      trimStart_blank_append third fun d hd => by
        cases hd
        rcases kind with rfl | rfl <;> decide
    have quoted := quotedValue?_eq_some_iff.2 ⟨quote, ending, kind, bare, closing, rfl⟩
    unfold memberMapping?
    simp only [begun, name, List.drop_left, equals, inside, quoted, List.head?_cons, start, if_true,
      Option.map_some]

/-! ## Lines -/

theorem ignored_iff {line : List Char} :
    ((trim line).isEmpty || ['#'].isPrefixOf (trim line) || ['/', '/'].isPrefixOf (trim line)) =
      true ↔ Ignored line := by
  simp [Ignored, or_assoc]

theorem MemberText.not_ignored {key value line : List Char} (h : MemberText key value line) :
    ¬ Ignored line := by
  obtain @⟨before, between, after, ending, quote, name, ⟨first, -⟩, -⟩ := h
  obtain ⟨⟨c, head, start⟩, part⟩ := attributeName_iff.1 name
  obtain ⟨tail, rfl⟩ := List.head?_eq_some_iff.1 head
  have word := wordChar_not_white (isWordChar_iff.1 (part c List.mem_cons_self))
  rw [List.cons_append]
  generalize tail ++ (between ++ '=' :: (after ++ quote :: (value ++ quote :: ending))) = rest
  have begun : trimStart (before ++ c :: rest) = c :: rest :=
    trimStart_blank_append first fun d hd => by
      cases hd
      exact word
  have whole : trim (before ++ c :: rest) = (c :: rest).rdropWhile Unicode.isWhiteSpace :=
    congrArg (dropEndWhile Unicode.isWhiteSpace) begun
  have kept : trim (before ++ c :: rest) <+: c :: rest := whole ▸ List.rdropWhile_prefix _ _
  rintro (empty | comment | slashes)
  · rw [whole, List.rdropWhile_eq_nil_iff] at empty
    rw [empty c List.mem_cons_self] at word
    cases word
  · cases (List.cons_prefix_cons.1 (comment.trans kept)).1
    revert start
    decide
  · cases (List.cons_prefix_cons.1 (slashes.trans kept)).1
    revert start
    decide

theorem readMemberLine_eq_skip_iff {line : List Char} :
    readMemberLine line = .skip ↔ Ignored line := by
  rw [← ignored_iff, readMemberLine]
  split
  · next ignored => exact iff_of_true rfl ignored
  · next other =>
    refine iff_of_false (fun skipped => ?_) other
    split at skipped
    · cases skipped
    · cases skipped

theorem readMemberLine_eq_mapping_iff {line : List Char} {key value : String} :
    readMemberLine line = .mapping key value ↔ MemberText key.toList value.toList line := by
  constructor
  · intro h
    rw [readMemberLine] at h
    split at h
    · cases h
    · split at h
      · next mapped =>
        cases h
        rw [String.toList_ofList, String.toList_ofList]
        exact memberMapping?_eq_some_iff.1 mapped
      · cases h
  · intro h
    have read := mt ignored_iff.1 h.not_ignored
    simp only [readMemberLine, if_neg read, memberMapping?_eq_some_iff.2 h, String.ofList_toList]

theorem readMemberLine_eq_malformed_iff {line : List Char} :
    readMemberLine line = .malformed ↔
      ¬ Ignored line ∧ ∀ key value : String, ¬ MemberText key.toList value.toList line := by
  simp only [← readMemberLine_eq_skip_iff, ← readMemberLine_eq_mapping_iff]
  cases readMemberLine line with
  | mapping key value => simp
  | skip => simp
  | malformed => simp

theorem MemberText.unique {line key value name other : List Char} (h : MemberText key value line)
    (h' : MemberText name other line) : key = name ∧ value = other := by
  have same := (memberMapping?_eq_some_iff.2 h).symm.trans (memberMapping?_eq_some_iff.2 h')
  simpa using same

theorem MemberText.mem_line {key value line : List Char} (h : MemberText key value line) :
    ∀ c ∈ value, c ∈ line := by
  intro c hc
  cases h
  simp [hc]

end Dialect
end DocModel

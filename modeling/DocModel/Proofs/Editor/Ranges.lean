import DocModel.Proofs.Dialect.Positions
import DocModel.Proofs.Editor.TypeMessages

/-!
# DocModel.Proofs.Editor.Ranges

What an editor marks is always what one line of the text shows. A range comes from a place that was
kept of the document, or from a line that was searched for a type.

* `among_allFindings`: the rules give no place that the reading does not have;
* `typeRange_eq`: both ways to compute a range agree on a line that gives a type;
* `editor_ranges_valid` puts these together, for all messages and for any broken front matter.
-/

namespace DocModel

open Text

/-! ## Places of findings -/

namespace Validation

/-- The rules give no place that the reading does not have. -/
theorem among_allFindings {reading : Dialect.Reading} {f : Finding} (h : f ∈ allFindings reading) :
    ∀ p ∈ f.positions, p ∈ reading.positions := by
  intro p hp
  refine List.mem_append.2 ?_
  simp only [allFindings, List.mem_append] at h
  rcases h with (((((h | h) | h) | h) | h) | h) | h
  · exact .inr ((placedIn_diagnosticRule h).among p hp)
  · exact .inl ((placedIn_duplicateRule h).among p hp)
  · exact .inl ((placedIn_nameRule h).among p hp)
  · exact .inl ((placedIn_typeRule h).among p hp)
  · exact .inl ((placedIn_termRule h).among p hp)
  · exact .inl ((placedIn_xmlRule h).among p hp)
  · exact .inl ((placedIn_enumerationRule h).among p hp)

/-- A finding is in the places of lines, if it has a place at all. -/
theorem lines_of_finding {source : String} {f : Finding} (h : f ∈ (validate source).findings) :
    ∀ p ∈ f.positions, ∃ n, p = (LineTable.ofSource source.toList).positionOf n := by
  intro p hp
  rcases mem_validate h with ⟨error, -, rfl⟩ | ⟨reading, read, ⟨-, rfl⟩ | all⟩
  · exact ⟨error.line, List.mem_singleton.1 hp⟩
  · cases hp
  · obtain ⟨n, -, place⟩ := Dialect.onLines_parse read p (among_allFindings all p hp)
    exact ⟨n, place⟩

end Validation

/-! ## Ranges -/

namespace Editor

open Dialect Validation

/-- The bytes that a message is about. -/
def EditorMessage.range (m : EditorMessage) : Span := ⟨m.start, m.stop⟩

section

variable {table : LineTable} {line : Nat}

theorem trimStart_ne_nil_of_givesType (h : givesType (trimStart (table.textOf line)) = true) :
    trimStart (table.textOf line) ≠ [] := by
  intro blank
  rw [blank] at h
  exact absurd h (by decide)

/-- The range of a line that gives a type is its place. -/
theorem typeRange_eq (h : givesType (trimStart (table.textOf line)) = true) :
    typeRange table line = (table.positionOf line).offset := by
  have shown := trimStart_ne_nil_of_givesType h
  have bytes : byteLength (table.textOf line) = byteLength (indentOf (table.textOf line)) +
      byteLength (trimStart (table.textOf line)) := by
    rw [← byteLength_append, indentOf_append_trimStart]
  rw [positionOf_eq, typeRange, bytes, Nat.add_sub_cancel, trimEnd_eq_append _ shown]

/-- A range is the place of a line, found or not. -/
theorem exists_shownRange (anchor : Nat) :
    ∃ line, shownRange table anchor = (table.positionOf line).offset := by
  rw [shownRange]
  cases found : typeLine? table anchor with
  | some range =>
    obtain ⟨line, own, rfl⟩ := typeLine?_eq_some_iff.1 found
    exact ⟨line, typeRange_eq own.gives⟩
  | none => exact ⟨anchor, rfl⟩

end

/-- A message marks what a line shows: bytes of the text, in order and between characters, and no
line feed among them. -/
structure MarksLine (source : List Char) (m : EditorMessage) (line : Nat) : Prop where
  range : ValidRange source m.range
  shown : slice? source m.range = some (trim ((LineTable.ofSource source).textOf line))
  single : '\n' ∉ trim ((LineTable.ofSource source).textOf line)

section

variable {source : String} {f : Finding} {m : EditorMessage}

theorem marksLine_positionOf {line : Nat}
    (h : m.range = ((LineTable.ofSource source.toList).positionOf line).offset) :
    MarksLine source.toList m line := by
  have shown := slice?_positionOf source.toList line
  rw [← h] at shown
  exact ⟨validRange_of_slice? shown, shown, fun feed => textOf_single _ _ (mem_of_mem_trim feed)⟩

/-- A message about a line marks this line or the one that its type is found on. -/
theorem marksLine_of_mem
    (places : ∀ p ∈ f.positions, ∃ n, p = (LineTable.ofSource source.toList).positionOf n)
    (h : m ∈ messagesOf source f) : ∃ line, MarksLine source.toList m line := by
  obtain ⟨p, hp, rfl⟩ := List.mem_map.1 h
  obtain ⟨n, rfl⟩ := places p hp
  by_cases kind : f.kind = .typeError
  · obtain ⟨line, place⟩ := @exists_shownRange (LineTable.ofSource source.toList) n
    refine ⟨line, marksLine_positionOf ?_⟩
    rw [← place, kind]
    rfl
  · refine ⟨n, marksLine_positionOf ?_⟩
    dsimp only [EditorMessage.range]
    split
    · contradiction
    · rfl

theorem mem_findings_of_panel (h : f ∈ panelFindings source) : f ∈ (validate source).findings :=
  List.mem_of_mem_filter (List.mem_mergeSort.1 h)

end

/-- Each message of an editor marks what a line shows; and so would the message that a front matter
is broken, whatever line is given for that. -/
theorem editor_ranges_valid (source : String) :
    (∀ m ∈ editorMessages source, ∃ line, MarksLine source.toList m line) ∧
      ∀ error, ∀ m ∈ messagesOf source (parseFinding source error),
        MarksLine source.toList m error.line := by
  constructor
  · intro m hm
    obtain ⟨f, hf, hm⟩ := List.mem_flatMap.1 hm
    exact marksLine_of_mem (lines_of_finding (mem_findings_of_panel hf)) hm
  · intro error m hm
    rw [List.mem_singleton.1 hm]
    exact marksLine_positionOf rfl

/-- The type of an attribute, on a line of wide characters that belongs to no bullet. -/
def strayType : String := "### A\n- x\n\n \u3000- TYPE: \u0130\u00a0\n"

/-- What is said of it: in lower case the line is longer, but not in the text. -/
def strayMessage : EditorMessage := ⟨15, 25, "Attribute 'x' in object 'A' has no type"⟩

/-- The message about a line that the text does not have. -/
def outsideMessage : EditorMessage := ⟨28, 28, "invalid front matter on line 99: no mapping"⟩

theorem strayType_marked :
    strayMessage ∈ editorMessages strayType ∧
      slice? strayType.toList strayMessage.range = some "- TYPE: \u0130".toList ∧
      (∃ line, MarksLine strayType.toList strayMessage line) ∧
      outsideMessage ∈
        messagesOf strayType (parseFinding strayType (.frontMatter 99 "no mapping")) ∧
      MarksLine strayType.toList outsideMessage 99 := by
  have findings : (validate strayType).findings = [noTypeFinding] := by decide +kernel
  have kept : noTypeFinding ∈ panelFindings strayType := by
    refine List.mem_mergeSort.2 (List.mem_filter.2 ⟨?_, by decide⟩)
    rw [findings]
    exact List.mem_singleton_self _
  have own : strayMessage ∈ editorMessages strayType :=
    List.mem_flatMap.2 ⟨noTypeFinding, kept, by decide +kernel⟩
  have outside : outsideMessage ∈
      messagesOf strayType (parseFinding strayType (.frontMatter 99 "no mapping")) := by
    decide +kernel
  have marked : slice? strayType.toList strayMessage.range = some "- TYPE: \u0130".toList :=
    slice?_eq_some_iff.2
      ⟨"### A\n- x\n\n \u3000".toList, "\u00a0\n".toList, by decide, by decide, by decide⟩
  exact ⟨own, marked, (editor_ranges_valid strayType).1 _ own, outside,
    (editor_ranges_valid strayType).2 _ _ outside⟩

end Editor
end DocModel

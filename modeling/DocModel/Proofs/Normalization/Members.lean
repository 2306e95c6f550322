import DocModel.Proofs.Dialect.Faults
import DocModel.Proofs.Normalization.ReadBack

/-!
# DocModel.Proofs.Normalization.Members

The members of an enumeration survive the normal form.

* `CodeLines` are the lines that are written for an enumeration;
* `members_read_again`: they give its members again without a diagnostic, whatever lines it has
  been read from.
-/

namespace DocModel
namespace Dialect

open Target.Markdown Text

/-- The lines of the code block of an enumeration in the normal form. -/
def CodeLines (e : Enumeration) (texts : List (List Char)) : Prop :=
  ∃ code : String, texts = lines code.toList ∧ renderEnumeration e =
    heading e.name e.docstring ++ "\n" ++ fence ++ "python\n" ++ code ++ fence ++ "\n"

/-- They are the lines of its members, if none of these holds a line feed. -/
theorem codeLines_iff {e : Enumeration} {texts : List (List Char)}
    (members : ∀ entry ∈ e.mappings.entries, WritableMember entry)
    (single : ∀ entry ∈ e.mappings.entries, '\n' ∉ entry.2.toList) :
    CodeLines e texts ↔ texts = (memberLines e).map String.toList := by
  have written : lines (unlines (memberLines e)).toList = (memberLines e).map String.toList := by
    refine lines_unlines (fun line hl => ?_) fun line hl => ?_
    · obtain ⟨entry, he, rfl⟩ := List.mem_map.1 hl
      exact single_memberLine (members entry he) (single entry he)
    -- the last quote keeps a carriage return of the value inside its line
    · obtain ⟨entry, he, rfl⟩ := List.mem_map.1 hl
      obtain ⟨c, rest, -, -, shape⟩ := memberLine_cons (members entry he)
      rw [shape, List.getLast?_concat, memberQuote]
      split <;> decide
  constructor
  · rintro ⟨code, rfl, shown⟩
    have same : unlines (memberLines e) = code := by
      simp only [renderEnumeration, String.append_left_inj, String.append_right_inj] at shown
      exact shown
    rw [← same, written]
  · rintro rfl
    exact ⟨_, written.symm, rfl⟩

section

variable {table : LineTable} {s : Section}

/-- A line gives each member of an enumeration that is read. -/
theorem exists_line_of_member {entry : String × String}
    (h : entry ∈ (readEnumeration table s).1.mappings.entries) :
    ∃ line ∈ s.codeBlocks.flatten, Defines line entry.1 entry.2 := by
  have first : FirstOf (readEnumeration table s).1.mappings s.codeBlocks.flatten :=
    (readMembers_spec firstOf_empty).1
  have found := (readEnumeration table s).1.mappings.ascending.lookup_of_mem h
  exact ((first entry.1 entry.2).1 found).exists_line

theorem writable_of_read {entry : String × String}
    (h : entry ∈ (readEnumeration table s).1.mappings.entries) : WritableMember entry := by
  obtain ⟨line, -, given⟩ := exists_line_of_member h
  exact exists_memberText_iff.1 ⟨_, given⟩

/-- The lines that are written for an enumeration that has been read give its members again, in the
same order and without a diagnostic. -/
theorem members_read_again {again : LineTable} {t : Section}
    (single : ∀ line ∈ s.codeBlocks.flatten, '\n' ∉ line.2.toList)
    (shown : CodeLines (readEnumeration table s).1
      (t.codeBlocks.flatten.map fun line => line.2.toList)) :
    (readEnumeration again t).1.mappings = (readEnumeration table s).1.mappings ∧
      (readEnumeration again t).2 = [] := by
  have writable : ∀ entry ∈ (readEnumeration table s).1.mappings.entries, WritableMember entry :=
    fun _ => writable_of_read
  have flat : ∀ entry ∈ (readEnumeration table s).1.mappings.entries, '\n' ∉ entry.2.toList := by
    intro entry he feed
    obtain ⟨line, hl, given⟩ := exists_line_of_member he
    exact single line hl (given.mem_line _ feed)
  have texts : t.codeBlocks.flatten.map (·.2) =
      (readEnumeration table s).1.mappings.entries.map memberLine := by
    have lined := congrArg (List.map String.ofList) ((codeLines_iff writable flat).1 shown)
    simpa [Function.comp_def, memberLines] using lined
  have read := @readMembers_memberLines again t.name _ writable .empty
    (readEnumeration table s).1.mappings.ascending _ texts
  rw [readEnumeration, read]
  exact ⟨rfl, rfl⟩

end

/-- Members in no order, between both kinds of quotes, and one of them twice. -/
def paperSection : Section where
  name := "Paper"
  line := 1
  codeBlocks := [
    [(4, "  WIDE = 'a \"b\" # c, = d' , "), (5, "# sizes"), (6, "A4=\"it's\",")],
    [(10, "A4 = 'again'"), (11, "_none = ''"), (12, "A5 A6")]]

/-- The lines that are written for them, elsewhere. -/
def paperLines : Section where
  name := "Sheet"
  line := 20
  codeBlocks := [
    [(30, "A4 = \"it's\""), (31, "WIDE = 'a \"b\" # c, = d'")], [(40, "_none = \"\"")]]

theorem paperSection_read_again :
    (readEnumeration (.ofSource []) paperSection).1.mappings.entries =
        [("A4", "it's"), ("WIDE", "a \"b\" # c, = d"), ("_none", "")] ∧
      (readEnumeration (.ofSource []) paperLines).1.mappings =
        (readEnumeration (.ofSource []) paperSection).1.mappings ∧
      (readEnumeration (.ofSource []) paperLines).2 = [] :=
  ⟨by decide +kernel, members_read_again (by decide +kernel)
    ⟨unlines (memberLines (readEnumeration (.ofSource []) paperSection).1), by decide +kernel, rfl⟩⟩

end Dialect
end DocModel

import DocModel.Proofs.Dialect.MemberGrammar
import DocModel.Proofs.Dialect.Parts
import DocModel.Proofs.Entries

/-!
# DocModel.Proofs.Dialect.MemberLines

The members of an enumeration in the normal form are read back. `WritableMember` says what a member
has to be for that, which all members are that lines can give (`exists_memberText_iff`);
`readMemberLine_memberLine` reads one line and `readMembers_memberLines` all of them.
-/

namespace DocModel
namespace Dialect

open Target.Markdown Text Validation

/-- A member that can be written: its key is a name, and its value fits between quotes of one
kind. -/
structure WritableMember (entry : String × String) : Prop where
  key : AttributeName entry.1.toList
  /-- The value does not hold both kinds of quotes. -/
  quote : '"' ∈ entry.2.toList → '\'' ∉ entry.2.toList

/-- The quote around the value of a member. -/
def memberQuote (value : List Char) : Char := if value.contains '"' then '\'' else '"'

theorem memberQuote_cases (value : List Char) :
    memberQuote value = '"' ∨ memberQuote value = '\'' := by
  rw [memberQuote]
  split
  · exact .inr rfl
  · exact .inl rfl

theorem toList_memberLine (entry : String × String) :
    (memberLine entry).toList = entry.1.toList ++
      ' ' :: '=' :: ' ' :: memberQuote entry.2.toList ::
        (entry.2.toList ++ [memberQuote entry.2.toList]) := by
  rw [memberLine, memberQuote]
  split <;> simp [String.toList_append]

theorem WritableMember.memberQuote_notMem {entry : String × String} (h : WritableMember entry) :
    memberQuote entry.2.toList ∉ entry.2.toList := by
  rw [memberQuote]
  split
  · next double => exact h.quote (by simpa using double)
  · next double => simpa using double

theorem memberLine_cons {entry : String × String} (h : WritableMember entry) :
    ∃ c rest, WordStart c ∧ entry.1.toList.head? = some c ∧
      (memberLine entry).toList = c :: rest ++ [memberQuote entry.2.toList] := by
  have key := h.key
  rw [toList_memberLine]
  cases hk : entry.1.toList with
  | nil => rw [hk] at key; cases key
  | cons c rest =>
    rw [hk] at key
    obtain ⟨start, -⟩ := key
    refine ⟨c, rest ++ ' ' :: '=' :: ' ' :: memberQuote entry.2.toList :: entry.2.toList, start,
      rfl, ?_⟩
    simp

theorem wordChar_of_start {c : Char} (h : WordStart c) : WordChar c :=
  h.elim .inl fun hu => .inr (.inr hu)

theorem memberText_memberLine {entry : String × String} (h : WritableMember entry) :
    MemberText entry.1.toList entry.2.toList (memberLine entry).toList := by
  rw [toList_memberLine]
  exact @MemberText.intro _ _ [] [' '] [' '] [] _ h.key ⟨rfl, by decide, by decide⟩
    (memberQuote_cases _) h.memberQuote_notMem (.inl rfl)

theorem readMemberLine_memberLine {entry : String × String} (h : WritableMember entry) :
    readMemberLine (memberLine entry).toList = .mapping entry.1 entry.2 :=
  readMemberLine_eq_mapping_iff.2 (memberText_memberLine h)

/-- The members that lines give are those that can be written. -/
theorem exists_memberText_iff {key value : String} :
    (∃ line, MemberText key.toList value.toList line) ↔ WritableMember (key, value) := by
  constructor
  · rintro ⟨line, @⟨before, between, after, ending, quote, name, blank, kind, bare, closing⟩⟩
    refine ⟨name, fun double single => ?_⟩
    rcases kind with rfl | rfl
    · exact bare double
    · exact bare single
  · exact fun h => ⟨_, memberText_memberLine h⟩

/-! ## All members -/

section

variable {table : LineTable} {definition : String}

theorem insertEntry_last {α : Type} {entries : List (String × α)} {name : String} {value : α}
    (h : ∀ entry ∈ entries, entry.1 < name) :
    insertEntry name value entries = entries ++ [(name, value)] := by
  induction entries with
  | nil => rfl
  | cons entry rest ih =>
    obtain ⟨other, kept⟩ := entry
    have before : other < name := h (other, kept) List.mem_cons_self
    have distinct : name ≠ other := fun e => String.lt_irrefl name (e ▸ before)
    rw [insertEntry, if_neg (String.lt_asymm before), if_neg distinct,
      ih fun x hx => h x (List.mem_cons_of_mem _ hx)]
    rfl

theorem contains_eq_false {d : Dictionary} {name : String}
    (h : ∀ entry ∈ d.entries, entry.1 < name) : d.contains name = false := by
  have missing : d.entries.lookup name = none := by
    refine List.lookup_eq_none_iff.2 fun entry he => ?_
    have distinct : name ≠ entry.1 := fun e => String.lt_irrefl name (e ▸ h entry he)
    simpa using distinct
  rw [Dictionary.contains, Dictionary.find?, missing]
  rfl

/-- The lines of members give the members, whatever their numbers are. -/
theorem readMembers_memberLines {entries : List (String × String)}
    (h : ∀ entry ∈ entries, WritableMember entry) {members : Dictionary}
    (ascending : Ascending (members.entries ++ entries)) {numbered : List (Nat × String)}
    (texts : numbered.map (·.2) = entries.map memberLine) :
    readMembers table definition members numbered =
      ({ entries := members.entries ++ entries, ascending }, []) := by
  induction entries generalizing members numbered with
  | nil =>
    rw [List.map_nil, List.map_eq_nil_iff] at texts
    subst texts
    obtain ⟨kept, order⟩ := members
    simp only [readMembers, List.append_nil]
  | cons entry rest ih =>
    obtain ⟨⟨number, text⟩, more, rfl, rfl, later⟩ := List.map_eq_cons_iff.1 texts
    have smaller : ∀ other ∈ members.entries, other.1 < entry.1 := fun other ho =>
      (List.pairwise_append.1 ascending).2.2 other ho entry List.mem_cons_self
    have inserted : (members.insert entry.1 entry.2).entries = members.entries ++ [entry] :=
      insertEntry_last smaller
    have order : Ascending ((members.insert entry.1 entry.2).entries ++ rest) := by
      rwa [inserted, List.append_assoc, List.singleton_append]
    have whole := ih (fun x hx => h x (List.mem_cons_of_mem _ hx)) order later
    simp only [readMembers, readMemberLine_memberLine (h entry List.mem_cons_self),
      contains_eq_false smaller, Bool.false_eq_true, if_false, whole, inserted, List.append_assoc,
      List.singleton_append]

/-- The line of a member does not end the code block that it is in. -/
theorem staysCode_memberLine {entry : String × String} (h : WritableMember entry) :
    StaysCode (memberLine entry).toList := by
  obtain ⟨c, rest, start, -, shape⟩ := memberLine_cons h
  have word := isWordChar_iff.2 (wordChar_of_start start)
  have begun : (memberLine entry).toList.dropWhile Markdown.isSpaceOrTab =
      (memberLine entry).toList := by
    rw [shape, List.cons_append, List.dropWhile_cons_of_neg]
    intro blank
    rw [Markdown.isSpaceOrTab, Bool.or_eq_true, beq_iff_eq, beq_iff_eq] at blank
    rcases blank with rfl | rfl
    · exact absurd word (by decide)
    · exact absurd word (by decide)
  have other : c ≠ '\x60' := by
    rintro rfl
    exact absurd word (by decide)
  rw [StaysCode, begun, shape, List.cons_append]
  unfold Markdown.closesFence
  rw [Markdown.runLength_cons_ne other]
  rfl

end

end Dialect
end DocModel

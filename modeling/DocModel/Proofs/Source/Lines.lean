import DocModel.Dialect.FrontMatter
import DocModel.Markdown.Document
import DocModel.Proofs.Splitting
import DocModel.Source.LineTable

/-!
# DocModel.Proofs.Source.Lines

The lines of a text as the parts of the reader see them: each way to cut a text into lines gives
back the lines that the text was made of.

* `bodyLines_terminated` for the block structure, where null characters are replaced;
* `stands_ofSource` for the table of the lines of a document;
* `partsOf_terminated` and `partsOf_front` for the front matter.
-/

namespace DocModel

open Text

/-- A text without line ends. -/
structure OneLine (text : List Char) : Prop where
  /-- It holds no line feed. -/
  feed : '\n' ∉ text
  /-- It holds no carriage return. -/
  unreturned : '\r' ∉ text

theorem OneLine.append {first second : List Char} (hf : OneLine first) (hs : OneLine second) :
    OneLine (first ++ second) := by
  refine ⟨fun h => ?_, fun h => ?_⟩
  · cases List.mem_append.1 h with
    | inl h => exact hf.feed h
    | inr h => exact hs.feed h
  · cases List.mem_append.1 h with
    | inl h => exact hf.unreturned h
    | inr h => exact hs.unreturned h

theorem OneLine.of_cons {c : Char} {rest : List Char} (h : OneLine (c :: rest)) :
    OneLine rest :=
  ⟨fun hm => h.feed (List.mem_cons_of_mem _ hm), fun hm => h.unreturned (List.mem_cons_of_mem _ hm)⟩

theorem oneLine_of_forall {text : List Char} (h : ∀ c ∈ text, c ≠ '\n' ∧ c ≠ '\r') :
    OneLine text :=
  ⟨fun hm => (h _ hm).1 rfl, fun hm => (h _ hm).2 rfl⟩

namespace Markdown

/-- A character as the block structure sees it. -/
def cleanChar (c : Char) : Char := if c == '\x00' then '\uFFFD' else c

/-- A line as the block structure sees it. -/
def cleanLine (line : List Char) : List Char := line.map cleanChar

theorem cleanChar_eq {c d : Char} (hd : d ≠ '\uFFFD') (h : cleanChar c = d) : c = d := by
  unfold cleanChar at h
  split at h
  · exact absurd h.symm hd
  · exact h

theorem cleanLine_eq_self {line : List Char} (h : '\x00' ∉ line) : cleanLine line = line := by
  refine (List.map_congr_left fun c hc => ?_).trans (List.map_id line)
  have other : c ≠ '\x00' := fun e => h (e ▸ hc)
  simp [cleanChar, other]

theorem oneLine_cleanLine {line : List Char} (h : OneLine line) : OneLine (cleanLine line) := by
  refine oneLine_of_forall fun c hc => ?_
  obtain ⟨d, hd, rfl⟩ := List.mem_map.1 hc
  refine ⟨fun e => h.feed ?_, fun e => h.unreturned ?_⟩
  · rwa [← cleanChar_eq (by decide) e]
  · rwa [← cleanChar_eq (by decide) e]

/-- A text that does not begin with a byte order mark. -/
theorem cleaned_terminated {ls : List (List Char)}
    (h : (terminated ls).head? ≠ some '\uFEFF') :
    cleaned (terminated ls) = terminated (ls.map cleanLine) := by
  have map : ∀ ls : List (List Char),
      (terminated ls).map cleanChar = terminated (ls.map cleanLine) := by
    intro ls
    induction ls with
    | nil => rfl
    | cons line more ih =>
      rw [terminated_cons, List.map_append, List.map_cons, ih, List.map_cons, terminated_cons]
      rfl
  rw [← map]
  unfold cleaned
  split
  · next heq => rw [heq] at h; exact absurd rfl h
  · rfl

theorem bodyLines_append {line more : List Char} {later : List (List Char)} (h : OneLine line)
    (hm : bodyLines more = [] :: later) : bodyLines (line ++ more) = line :: later := by
  induction line with
  | nil => exact hm
  | cons c front ih =>
    have feed : c ≠ '\n' := fun e => h.feed (e ▸ List.mem_cons_self)
    have unreturned : c ≠ '\r' := fun e => h.unreturned (e ▸ List.mem_cons_self)
    have some : front ++ more = [] → False := by
      intro none
      rw [(List.append_eq_nil_iff.1 none).2] at hm
      cases hm
    exact bodyLines.eq_7 c _ _ _ unreturned feed some (fun _ e => absurd e unreturned)
      (ih h.of_cons)

theorem bodyLines_feed (rest : List Char) : bodyLines ('\n' :: rest) = [] :: bodyLines rest := by
  simp [bodyLines]

theorem bodyLines_line {line : List Char} (h : OneLine line) (rest : List Char) :
    bodyLines (line ++ '\n' :: rest) = line :: bodyLines rest :=
  bodyLines_append h (bodyLines_feed rest)

theorem bodyLines_terminated {ls : List (List Char)} (h : ∀ line ∈ ls, OneLine line) :
    bodyLines (terminated ls) = ls := by
  induction ls with
  | nil => simp [terminated, bodyLines]
  | cons line more ih =>
    rw [terminated_cons, bodyLines_line (h line List.mem_cons_self),
      ih fun x hx => h x (List.mem_cons_of_mem _ hx)]

end Markdown

/-! ## The table of lines -/

/-- Lines stand in a document, the first of them with the number `n`. -/
def Stands (table : LineTable) (n : Nat) (ls : List (List Char)) : Prop :=
  ∀ i line, ls[i]? = some line → table.textOf (n + i) = line

theorem Stands.append {table : LineTable} {n : Nat} {first second : List (List Char)}
    (h : Stands table n (first ++ second)) :
    Stands table n first ∧ Stands table (n + first.length) second := by
  refine ⟨fun i line hl => h i line ?_, fun i line hl => ?_⟩
  · have inside := (List.getElem?_eq_some_iff.1 hl).1
    rwa [List.getElem?_append_left inside]
  · rw [Nat.add_assoc]
    refine h _ line ?_
    rwa [List.getElem?_append_right (Nat.le_add_right _ _), Nat.add_sub_cancel_left]

theorem Stands.head {table : LineTable} {n : Nat} {line : List Char} {more : List (List Char)}
    (h : Stands table n (line :: more)) : table.textOf n = line := h 0 line rfl

theorem Stands.tail {table : LineTable} {n : Nat} {ls : List (List Char)}
    (h : Stands table n ls) : Stands table (n + 1) ls.tail := by
  intro i next hn
  rw [Nat.add_right_comm, Nat.add_assoc]
  exact h (i + 1) next (by rw [← List.getElem?_tail, hn])

theorem Stands.before {table : LineTable} {ls : List (List Char)} (h : Stands table 1 ls) :
    Stands table 0 ([] :: ls) := by
  intro i line hi
  cases i with
  | zero =>
    rw [List.getElem?_cons_zero] at hi
    rw [← Option.some.inj hi]
    rfl
  | succ i =>
    rw [List.getElem?_cons_succ] at hi
    rw [Nat.zero_add, Nat.add_comm]
    exact h i line hi

theorem raw_placedFrom (start : Nat) (pieces : List (List Char)) :
    (LineTable.placedFrom start pieces).map (·.raw) = pieces := by
  induction pieces generalizing start with
  | nil => rfl
  | cons piece more ih => rw [LineTable.placedFrom, List.map_cons, ih]

theorem textOf_ofSource {source line : List Char} {i : Nat}
    (h : (splitOn '\n' source)[i]? = some line) :
    (LineTable.ofSource source).textOf (i + 1) = chopReturn line := by
  have raw : (((LineTable.placedFrom 0 (splitOn '\n' source)).map (·.raw))[i]?) = some line := by
    rw [raw_placedFrom, h]
  rw [List.getElem?_map] at raw
  obtain ⟨placed, hp, rfl⟩ := Option.map_eq_some_iff.1 raw
  simp only [LineTable.textOf, LineTable.line?, LineTable.ofSource, List.getElem?_toArray, hp]

theorem textOf_single (source : List Char) (n : Nat) :
    '\n' ∉ (LineTable.ofSource source).textOf n := by
  intro h
  rw [LineTable.textOf] at h
  split at h
  · next placed hp =>
    have raw : '\n' ∈ placed.raw := by
      rw [chopReturn] at h
      split at h
      · exact List.dropLast_subset _ h
      · exact h
    cases n with
    | zero => cases hp
    | succ n =>
      rw [LineTable.line?, LineTable.ofSource, List.getElem?_toArray] at hp
      have piece : placed.raw ∈ splitOn '\n' source := by
        rw [← raw_placedFrom 0 (splitOn '\n' source)]
        exact List.mem_map_of_mem (List.mem_of_getElem? hp)
      exact notMem_of_mem_splitOn piece raw
  · cases h

theorem chopReturn_unreturned {line : List Char} (h : '\r' ∉ line) : chopReturn line = line := by
  rw [chopReturn, if_neg]
  intro last
  exact h (List.mem_of_getLast? (by simpa using last))

theorem oneLine_of_mem_splitOn {text piece : List Char} (hr : '\r' ∉ text)
    (h : piece ∈ splitOn '\n' text) : OneLine piece :=
  ⟨notMem_of_mem_splitOn h, fun hm => hr (mem_of_mem_splitOn h hm)⟩

/-- The lines after some others of a document stand in it. -/
theorem stands_ofSource {front ls : List (List Char)} (hf : ∀ line ∈ front, '\n' ∉ line)
    (hl : ∀ line ∈ ls, OneLine line) :
    Stands (LineTable.ofSource (terminated (front ++ ls))) (front.length + 1) ls := by
  intro i line hi
  have feed : ∀ line ∈ front ++ ls, '\n' ∉ line := by
    intro line hm
    cases List.mem_append.1 hm with
    | inl h => exact hf line h
    | inr h => exact (hl line h).feed
  have inside := (List.getElem?_eq_some_iff.1 hi).1
  have piece : (splitOn '\n' (terminated (front ++ ls)))[front.length + i]? = some line := by
    rw [splitOn_terminated feed, List.append_assoc,
      List.getElem?_append_right (Nat.le_add_right _ _), Nat.add_sub_cancel_left,
      List.getElem?_append_left inside, hi]
  rw [Nat.add_right_comm, textOf_ofSource piece,
    chopReturn_unreturned (hl line (List.mem_of_getElem? hi)).unreturned]

/-! ## Front matter -/

theorem terminatedLines_cons {c : Char} (h : c ≠ '\n') (rest : List Char) :
    terminatedLines (c :: rest) = match terminatedLines rest with
      | [] => [[c]]
      | line :: more => (c :: line) :: more := by
  rw [terminatedLines.eq_def]
  split
  · next heq => cases heq
  · next heq => exact absurd (List.cons.inj heq).1 h
  · next heq =>
    obtain ⟨rfl, rfl⟩ := List.cons.inj heq
    rfl

theorem terminatedLines_line {line : List Char} (h : '\n' ∉ line) (rest : List Char) :
    terminatedLines (line ++ '\n' :: rest) = (line ++ ['\n']) :: terminatedLines rest := by
  induction line with
  | nil => rw [List.nil_append, terminatedLines]; rfl
  | cons c more ih =>
    have feed : c ≠ '\n' := fun e => h (e ▸ List.mem_cons_self)
    have later := ih fun hm => h (List.mem_cons_of_mem _ hm)
    rw [List.cons_append, terminatedLines_cons feed, later]
    rfl

theorem terminatedLines_terminated {ls : List (List Char)} (h : ∀ line ∈ ls, '\n' ∉ line)
    (rest : List Char) : terminatedLines (terminated ls ++ rest) =
      ls.map (· ++ ['\n']) ++ terminatedLines rest := by
  induction ls with
  | nil => rfl
  | cons line more ih =>
    rw [terminated_cons, List.append_assoc, List.cons_append,
      terminatedLines_line (h line List.mem_cons_self),
      ih fun x hx => h x (List.mem_cons_of_mem _ hx)]
    rfl

theorem flatten_terminatedLines (text : List Char) : (terminatedLines text).flatten = text := by
  induction text with
  | nil => rfl
  | cons c rest ih =>
    by_cases feed : c = '\n'
    · rw [feed, terminatedLines, List.flatten_cons, ih]
      rfl
    · rw [terminatedLines_cons feed]
      cases hr : terminatedLines rest with
      | nil =>
        rw [hr] at ih
        rw [← ih]
        rfl
      | cons line more =>
        rw [hr, List.flatten_cons] at ih
        rw [List.flatten_cons, List.cons_append, ih]

namespace Dialect

theorem splitAtDelimiter_append {ls before after : List (List Char)}
    (h : splitAtDelimiter ls = some (before, after)) (more : List (List Char)) :
    splitAtDelimiter (ls ++ more) = some (before, after ++ more) := by
  induction ls generalizing before with
  | nil => cases h
  | cons line rest ih =>
    rw [splitAtDelimiter] at h
    rw [List.cons_append, splitAtDelimiter]
    split at h
    · next hd =>
      cases h
      rw [if_pos hd]
    · next hd =>
      obtain ⟨⟨inner, outer⟩, hs, same⟩ := Option.map_eq_some_iff.1 h
      cases same
      rw [if_neg hd, ih hs]
      rfl

theorem eq_append_of_splitAtDelimiter {ls before after : List (List Char)}
    (h : splitAtDelimiter ls = some (before, after)) :
    ∃ delimiter, ls = before ++ delimiter :: after := by
  induction ls generalizing before with
  | nil => cases h
  | cons line rest ih =>
    rw [splitAtDelimiter] at h
    split at h
    · cases h
      exact ⟨line, rfl⟩
    · obtain ⟨⟨inner, outer⟩, hs, same⟩ := Option.map_eq_some_iff.1 h
      cases same
      obtain ⟨delimiter, rfl⟩ := ih hs
      exact ⟨delimiter, rfl⟩

/-- A document whose first line is no delimiter has no front matter. -/
theorem partsOf_terminated {line : List Char} {more : List (List Char)}
    (h : ∀ x ∈ line :: more, '\n' ∉ x) (hd : isDelimiter (line ++ ['\n']) = false) :
    partsOf (terminated (line :: more)) =
      .ok { front := none, body := terminated (line :: more), offset := 0 } := by
  have cut := terminatedLines_terminated h []
  rw [List.append_nil] at cut
  rw [partsOf, cut]
  simp only [List.map_cons, List.cons_append, hd, Bool.false_eq_true, if_false]

theorem partsOf_front {ls : List (List Char)} (h : ∀ line ∈ ls, '\n' ∉ line) {front : FrontMatter}
    {offset : Nat}
    (hp : partsOf (terminated ls) = .ok { front := some front, body := [], offset })
    (rest : List Char) :
    partsOf (terminated ls ++ rest) =
      .ok { front := some front, body := rest, offset := ls.length } := by
  have cut := terminatedLines_terminated h
  have alone := cut []
  rw [List.append_nil] at alone
  cases ls with
  | nil => cases hp
  | cons first others =>
    rw [List.map_cons] at alone
    rw [partsOf, alone] at hp
    simp only [terminatedLines, List.append_nil] at hp
    split at hp
    · next hd =>
      split at hp
      · next yaml body found =>
        simp only [Except.ok.injEq, Parts.mk.injEq, Option.some.injEq] at hp
        obtain ⟨rfl, empty, -⟩ := hp
        obtain ⟨delimiter, same⟩ := eq_append_of_splitAtDelimiter found
        have none : body = [] := by
          cases body with
          | nil => rfl
          | cons line more =>
            have member : line ∈ others.map (· ++ ['\n']) := by simp [same]
            obtain ⟨x, -, rfl⟩ := List.mem_map.1 member
            simp at empty
        subst none
        have count : others.length = yaml.length + 1 := by
          have := congrArg List.length same
          simpa using this
        rw [partsOf, cut, List.map_cons, List.cons_append]
        simp only [hd, if_true, splitAtDelimiter_append found, List.nil_append,
          flatten_terminatedLines, List.length_cons, count]
      · cases hp
    · cases hp

end Dialect
end DocModel

import DocModel.Proofs.Source.Lines

/-!
# DocModel.Proofs.Markdown.Markers

List markers of a line and the places of a line that are read past them.

* `MarkerText`, `AfterMarker` and `AfterMarkers` say what the markers of a line are, without the
  reader: several may stand one behind the other;
* `afterMarker_listMarker?`: what the reader takes for a marker is one;
* `Cursor.At` holds of a cursor that has passed blanks only, even inside a tab.
-/

namespace DocModel
namespace Markdown

/-! ## Markers -/

/-- A list marker: a bullet mark, or digits and a dot or parenthesis. -/
inductive MarkerText : List Char → Prop where
  | bullet (c : Char) (mark : c = '*' ∨ c = '-' ∨ c = '+') : MarkerText [c]
  | ordered (digits : List Char) (some : digits ≠ []) (number : ∀ c ∈ digits, c.isDigit = true)
    (d : Char) (mark : d = '.' ∨ d = ')') : MarkerText (digits ++ [d])

/-- `rest` is what follows the marker at the head of a text. Blanks may stand before the marker, and
white space or nothing comes after it. -/
def AfterMarker (text rest : List Char) : Prop :=
  ∃ blanks mark, text = blanks ++ (mark ++ rest) ∧ (∀ c ∈ blanks, isSpaceOrTab c = true) ∧
    MarkerText mark ∧ ∀ c ∈ rest.head?, isAsciiSpace c = true

/-- `rest` is what follows so many markers at the head of a text. -/
inductive AfterMarkers (text : List Char) : Nat → List Char → Prop where
  | start : AfterMarkers text 0 text
  | next {n : Nat} {before rest : List Char} (h : AfterMarkers text n before)
    (marker : AfterMarker before rest) : AfterMarkers text (n + 1) rest

theorem AfterMarkers.first {line rest : List Char} {n : Nat} (h : AfterMarkers line (n + 1) rest) :
    ∃ behind, AfterMarker line behind ∧ AfterMarkers behind n rest := by
  induction n generalizing rest with
  | zero =>
    cases h with
    | next before marker =>
      cases before
      exact ⟨rest, marker, .start⟩
  | succ n ih =>
    cases h with
    | next before marker =>
      obtain ⟨behind, first, later⟩ := ih before
      exact ⟨behind, first, .next later marker⟩

/-- A marker of a kind and a length, if what follows it allows that. -/
def accepted (interrupts : Bool) (text : List Char) (marker : ListMarker) (length : Nat) :
    Option (ListMarker × Nat) :=
  let rest := text.drop length
  let follows := match rest with
    | [] => true
    | c :: _ => isAsciiSpace c
  if follows && !(interrupts && onlySpaces rest) then some (marker, length) else none

/-- The digits that a number of an item may have. -/
def markerDigits (text : List Char) : List Char := (text.takeWhile Char.isDigit).take 9

theorem listMarker?_cons (interrupts : Bool) (c : Char) (rest : List Char) :
    listMarker? interrupts (c :: rest) =
      if c == '*' || c == '-' || c == '+' then accepted interrupts (c :: rest) (.bullet c) 1
      else if c.isDigit then
        match (c :: rest).drop (markerDigits (c :: rest)).length with
        | d :: _ =>
          if (d == '.' || d == ')') && !(interrupts &&
              (markerDigits (c :: rest)).foldl (fun n d => 10 * n + (d.toNat - 48)) 0 != 1) then
            accepted interrupts (c :: rest) (.ordered d) ((markerDigits (c :: rest)).length + 1)
          else none
        | [] => none
      else none := rfl

theorem accepted_eq_some {interrupts : Bool} {text : List Char} {marker other : ListMarker}
    {length n : Nat} (h : accepted interrupts text other n = some (marker, length)) :
    n = length ∧ ∀ c ∈ (text.drop length).head?, isAsciiSpace c = true := by
  unfold accepted at h
  dsimp only at h
  cases rest : text.drop n with
  | nil =>
    rw [rest] at h
    dsimp only at h
    split at h
    · cases h
      exact ⟨rfl, by simp [rest]⟩
    · cases h
  | cons c more =>
    rw [rest] at h
    dsimp only at h
    split at h
    · next fits =>
      cases h
      have space := (Bool.and_eq_true_iff.1 fits).1
      exact ⟨rfl, by simpa [rest] using space⟩
    · cases h

theorem markerText_listMarker? {interrupts : Bool} {text : List Char} {marker : ListMarker}
    {length : Nat} (h : listMarker? interrupts text = some (marker, length)) :
    MarkerText (text.take length) ∧ ∀ c ∈ (text.drop length).head?, isAsciiSpace c = true := by
  cases text with
  | nil => cases h
  | cons c rest =>
    rw [listMarker?_cons] at h
    split at h
    · next bullet =>
      obtain ⟨rfl, space⟩ := accepted_eq_some h
      simp only [Bool.or_eq_true, beq_iff_eq, or_assoc] at bullet
      exact ⟨.bullet c bullet, space⟩
    split at h
    · next digit =>
      have first : (markerDigits (c :: rest)) <+: c :: rest :=
        (List.take_prefix _ _).trans (List.takeWhile_prefix _)
      have number : ∀ d ∈ markerDigits (c :: rest), d.isDigit = true :=
        fun d hd => List.mem_takeWhile_imp (List.mem_of_mem_take hd)
      have some : markerDigits (c :: rest) ≠ [] := by simp [markerDigits, digit]
      split at h
      · next d more cut =>
        split at h
        · next mark =>
          obtain ⟨rfl, space⟩ := accepted_eq_some h
          simp only [Bool.and_eq_true, Bool.or_eq_true, beq_iff_eq] at mark
          have taken : (c :: rest).take (markerDigits (c :: rest)).length =
              markerDigits (c :: rest) := (List.prefix_iff_eq_take.1 first).symm
          have marked : (c :: rest).take ((markerDigits (c :: rest)).length + 1) =
              markerDigits (c :: rest) ++ [d] := by
            rw [List.take_add, taken, cut]
            rfl
          rw [marked]
          exact ⟨.ordered _ some number d mark.1, space⟩
        · cases h
      · cases h
    · cases h

theorem afterMarker_listMarker? {interrupts : Bool} {text : List Char} {marker : ListMarker}
    {length : Nat}
    (h : listMarker? interrupts (text.dropWhile isSpaceOrTab) = some (marker, length)) :
    AfterMarker text ((text.dropWhile isSpaceOrTab).drop length) := by
  obtain ⟨mark, space⟩ := markerText_listMarker? h
  refine ⟨text.takeWhile isSpaceOrTab, _, ?_, fun c hc => List.mem_takeWhile_imp hc, mark, space⟩
  rw [List.take_append_drop, List.takeWhile_append_dropWhile]

/-! ## Null characters -/

theorem isSpaceOrTab_iff {c : Char} : isSpaceOrTab c = true ↔ c = ' ' ∨ c = '\t' := by
  simp [isSpaceOrTab]

theorem isAsciiSpace_iff {c : Char} : isAsciiSpace c = true ↔
    c = ' ' ∨ c = '\t' ∨ c = '\n' ∨ c = '\r' ∨ c = '\x0b' ∨ c = '\x0c' := by
  simp [isAsciiSpace, isSpaceOrTab, or_assoc]

/-- A text is seen as it is where no replacement character is seen. -/
theorem eq_of_cleanLine {text seen : List Char} (h : cleanLine text = seen)
    (plain : ∀ c ∈ seen, c ≠ '\uFFFD') : text = seen := by
  subst h
  refine (List.map_id text).symm.trans (List.map_congr_left fun c hc => ?_)
  exact cleanChar_eq (plain _ (List.mem_map_of_mem hc)) rfl

theorem MarkerText.plain {mark : List Char} (h : MarkerText mark) : ∀ c ∈ mark, c ≠ '\uFFFD' := by
  rintro c hc rfl
  cases h with
  | bullet d marks =>
    rw [List.mem_singleton] at hc
    subst hc
    rcases marks with e | e | e <;> exact absurd e (by decide)
  | ordered digits some number d marks =>
    rcases List.mem_append.1 hc with hc | hc
    · exact absurd (number _ hc) (by decide)
    · rw [List.mem_singleton] at hc
      subst hc
      rcases marks with e | e <;> exact absurd e (by decide)

theorem AfterMarker.of_cleanLine {text rest : List Char} (h : AfterMarker (cleanLine text) rest) :
    ∃ raw, AfterMarker text raw ∧ cleanLine raw = rest := by
  obtain ⟨blanks, mark, cut, blank, marker, space⟩ := h
  obtain ⟨before, behind, rfl, first, later⟩ := List.map_eq_append_iff.1 cut
  obtain ⟨own, raw, rfl, second, last⟩ := List.map_eq_append_iff.1 later
  have plain : ∀ c ∈ blanks, c ≠ '\uFFFD' := by
    rintro c hc rfl
    exact absurd (blank _ hc) (by decide)
  refine ⟨raw, ⟨blanks, mark, ?_, blank, marker, fun c hc => ?_⟩, last⟩
  · rw [eq_of_cleanLine first plain, eq_of_cleanLine second marker.plain]
  · have seen : cleanChar c ∈ rest.head? := by
      rw [← last, List.head?_map, Option.mem_def.1 hc]
      rfl
    have white := space _ seen
    have same : c = cleanChar c := by
      refine cleanChar_eq ?_ rfl
      intro e
      rw [e] at white
      exact absurd white (by decide)
    rwa [same]

theorem AfterMarkers.of_cleanLine {text rest : List Char} {n : Nat}
    (h : AfterMarkers (cleanLine text) n rest) :
    ∃ raw, AfterMarkers text n raw ∧ cleanLine raw = rest := by
  induction h with
  | start => exact ⟨text, .start, rfl⟩
  | next _ marker ih =>
    obtain ⟨before, taken, rfl⟩ := ih
    obtain ⟨raw, own, seen⟩ := marker.of_cleanLine
    exact ⟨raw, .next taken own, seen⟩

/-! ## Places behind blanks -/

/-- A cursor that shows `text` behind the blanks ahead. A tab that is partly used up is still
there. -/
structure Cursor.At (text : List Char) (cur : Cursor) : Prop where
  text : cur.text = text
  /-- The tab stands at the head. -/
  whole : cur.insideTab = true → cur.rest.head? = some '\t'

namespace Cursor

variable {cur : Cursor} {text : List Char}

theorem at_start (line : List Char) : Cursor.At (line.dropWhile isSpaceOrTab) { rest := line } :=
  ⟨rfl, fun h => by cases h⟩

theorem At.skipColumn (h : cur.At text) (blank : ∀ c ∈ cur.rest.head?, isSpaceOrTab c = true) :
    cur.skipColumn.At text := by
  obtain ⟨rest, column, insideTab⟩ := cur
  cases rest with
  | nil => exact h
  | cons c rest =>
    have space : isSpaceOrTab c = true := blank c rfl
    rw [Cursor.skipColumn]
    dsimp only
    split
    · next tab =>
      simp only [Bool.and_eq_true, beq_iff_eq] at tab
      exact ⟨h.text, fun _ => by rw [tab.1]; rfl⟩
    · refine ⟨?_, fun h => by cases h⟩
      rw [← h.text, Cursor.text, Cursor.text, List.dropWhile_cons_of_pos space]

theorem le_columnAfterBlanks (column : Nat) (rest : List Char) :
    column ≤ columnAfterBlanks column rest := by
  induction rest generalizing column with
  | nil => exact Nat.le_refl column
  | cons c more ih =>
    rw [columnAfterBlanks]
    split
    · exact Nat.le_trans (Nat.le_succ column) (ih _)
    split
    · exact Nat.le_trans (Nat.le_add_right column _) (ih _)
    · exact Nat.le_refl column

/-- A column of the blanks ahead is one column less ahead. -/
theorem indent_skipColumn (h : 0 < cur.indent) :
    (∀ c ∈ cur.rest.head?, isSpaceOrTab c = true) ∧ cur.skipColumn.indent + 1 = cur.indent := by
  obtain ⟨rest, column, insideTab⟩ := cur
  cases rest with
  | nil => simp [indent, columnAfterBlanks] at h
  | cons c rest =>
    by_cases space : c = ' '
    · subst space
      have more := le_columnAfterBlanks (column + 1) rest
      refine ⟨fun c hc => by cases hc; rfl, ?_⟩
      simp only [Cursor.skipColumn, indent, columnAfterBlanks]
      simp
      omega
    by_cases tab : c = '\t'
    · subst tab
      refine ⟨fun c hc => by cases hc; rfl, ?_⟩
      have more := le_columnAfterBlanks (column + toTabStop column) rest
      have past : ∀ n, columnAfterBlanks n ('\t' :: rest) =
          columnAfterBlanks (n + toTabStop n) rest := fun n => by simp [columnAfterBlanks]
      by_cases wide : 1 < toTabStop column
      · have next : column + 1 + toTabStop (column + 1) = column + toTabStop column := by
          unfold toTabStop at wide ⊢
          omega
        simp only [Cursor.skipColumn, wide, decide_true, beq_self_eq_true, Bool.and_self, if_true,
          indent, past, next]
        omega
      · have one : toTabStop column = 1 := by
          unfold toTabStop at wide ⊢
          omega
        rw [one] at more
        simp only [Cursor.skipColumn, one, Nat.lt_irrefl, decide_false, Bool.and_false,
          Bool.false_eq_true, if_false, indent, past]
        omega
    · simp [indent, columnAfterBlanks, space, tab] at h

theorem At.skipColumns (h : cur.At text) {n : Nat} (hn : n ≤ cur.indent) :
    (cur.skipColumns n).At text := by
  induction n generalizing cur with
  | zero => exact h
  | succ n ih =>
    obtain ⟨blank, less⟩ := indent_skipColumn (Nat.lt_of_lt_of_le n.succ_pos hn)
    exact ih (h.skipColumn blank) (by omega)

theorem text_skipIndent (cur : Cursor) : cur.skipIndent.text = cur.text :=
  List.dropWhile_idempotent _ _

theorem At.skipIndent (h : cur.At text) : cur.skipIndent.At text :=
  ⟨(text_skipIndent cur).trans h.text, fun h => by cases h⟩

theorem At.skipBlanksUpTo (h : cur.At text) (n : Nat) : (skipBlanksUpTo n cur).At text := by
  induction n generalizing cur with
  | zero => exact h
  | succ n ih =>
    rw [Markdown.skipBlanksUpTo]
    split
    · next c rest head =>
      split
      · next blank =>
        refine ih (h.skipColumn fun d hd => ?_)
        rw [head] at hd
        cases hd
        exact blank
      · exact h
    · exact h

theorem At.content (h : cur.At text) : cur.content.dropWhile isSpaceOrTab = text := by
  rw [← h.text, Cursor.content]
  split
  · next inside =>
    obtain ⟨rest, column, insideTab⟩ := cur
    obtain ⟨more, rfl⟩ : ∃ more, rest = '\t' :: more := List.head?_eq_some_iff.1 (h.whole inside)
    have spaces : ∀ n, (List.replicate n ' ' ++ more).dropWhile isSpaceOrTab =
        more.dropWhile isSpaceOrTab := by
      intro n
      induction n with
      | zero => rfl
      | succ n ih => exact ih
    exact spaces _
  · rfl

theorem rest_skipChars (n : Nat) (cur : Cursor) : (cur.skipChars n).rest = cur.rest.drop n := by
  induction n generalizing cur with
  | zero => rfl
  | succ n ih =>
    obtain ⟨rest, column, insideTab⟩ := cur
    rw [Cursor.skipChars, ih]
    cases rest with
    | nil => simp [Cursor.skipChar]
    | cons c rest => rfl

theorem insideTab_skipChars (n : Nat) {cur : Cursor} (h : cur.insideTab = false) :
    (cur.skipChars n).insideTab = false := by
  induction n generalizing cur with
  | zero => exact h
  | succ n ih =>
    refine ih ?_
    obtain ⟨rest, column, insideTab⟩ := cur
    cases rest with
    | nil => exact h
    | cons c rest => rfl

end Cursor

theorem at_itemContent (cur : Cursor) (length : Nat) :
    (itemContent cur length).1.At ((cur.text.drop length).dropWhile isSpaceOrTab) := by
  have marked : (cur.skipIndent.skipChars length).At
      ((cur.text.drop length).dropWhile isSpaceOrTab) := by
    refine ⟨?_, fun inside => ?_⟩
    · rw [Cursor.text, Cursor.rest_skipChars]
      rfl
    · rw [Cursor.insideTab_skipChars length rfl] at inside
      cases inside
  rw [itemContent]
  split
  · split
    · next gap =>
      refine marked.skipColumn fun c hc => ?_
      -- without a blank ahead nothing is skipped, and there is no gap
      by_contra other
      obtain ⟨rest, head⟩ := List.head?_eq_some_iff.1 hc
      have same : skipBlanksUpTo 6 (cur.skipIndent.skipChars length) =
          cur.skipIndent.skipChars length := by
        rw [skipBlanksUpTo, head]
        simp only [if_neg other]
      rw [same, Nat.sub_self] at gap
      exact absurd gap (Nat.lt_irrefl 0)
    · exact marked
  · exact marked.skipBlanksUpTo 6

end Markdown
end DocModel

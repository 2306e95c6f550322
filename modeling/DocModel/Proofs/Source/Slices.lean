import DocModel.Editor.Lint
import DocModel.Proofs.Source.BodyLines
import DocModel.Proofs.Source.Offsets

/-!
# DocModel.Proofs.Source.Slices

Ranges of bytes as stretches of a text, and the place of a line as such a stretch.

* `slice?` is the text in a range; there is none if an end is no `Boundary` between characters.
* `source_eq_append`: a line stands behind the lines before it, whose bytes are where it begins.
* `positionOf_eq`: what a line shows stands behind its indentation, in bytes and in characters.
* `slice?_positionOf` puts these together for every number of a line, also outside the document.
-/

namespace DocModel

open Text Unicode Editor

/-! ## Bytes -/

theorem byteLength_cons (c : Char) (rest : List Char) :
    byteLength (c :: rest) = c.utf8Size + byteLength rest := rfl

theorem byteLength_eq_zero {text : List Char} (h : byteLength text = 0) : text = [] := by
  cases text with
  | nil => rfl
  | cons c rest =>
    have positive := c.utf8Size_pos
    rw [byteLength_cons] at h
    omega

/-- The first bytes of a text are a beginning of exactly this length. -/
theorem takeBytes?_eq_some_iff {n : Nat} {text before : List Char} :
    takeBytes? n text = some before ↔ ∃ after, text = before ++ after ∧ byteLength before = n := by
  induction text generalizing n before with
  | nil =>
    cases n with
    | zero =>
      simp only [takeBytes?, Option.some.injEq]
      constructor
      · rintro rfl
        exact ⟨[], rfl, rfl⟩
      · rintro ⟨after, cut, -⟩
        exact (List.append_eq_nil_iff.1 cut.symm).1.symm
    | succ n =>
      simp only [takeBytes?, reduceCtorEq, false_iff]
      rintro ⟨after, cut, length⟩
      rw [(List.append_eq_nil_iff.1 cut.symm).1] at length
      cases length
  | cons c rest ih =>
    cases n with
    | zero =>
      simp only [takeBytes?, Option.some.injEq]
      constructor
      · rintro rfl
        exact ⟨c :: rest, rfl, rfl⟩
      · rintro ⟨after, -, length⟩
        exact (byteLength_eq_zero length).symm
    | succ n =>
      rw [takeBytes?]
      split
      · next fits =>
        simp only [Option.map_eq_some_iff, ih]
        constructor
        · rintro ⟨inner, ⟨after, rfl, length⟩, rfl⟩
          refine ⟨after, rfl, ?_⟩
          rw [byteLength_cons]
          omega
        · rintro ⟨after, cut, length⟩
          cases before with
          | nil => cases length
          | cons d inner =>
            obtain ⟨rfl, rfl⟩ := List.cons.inj cut
            rw [byteLength_cons] at length
            exact ⟨inner, ⟨after, rfl, by omega⟩, rfl⟩
      · next wide =>
        simp only [reduceCtorEq, false_iff]
        rintro ⟨after, cut, length⟩
        cases before with
        | nil => cases length
        | cons d inner =>
          obtain ⟨rfl, -⟩ := List.cons.inj cut
          rw [byteLength_cons] at length
          omega

/-- An offset between two characters of a text or at one of its ends. -/
def Boundary (source : List Char) (offset : Nat) : Prop :=
  ∃ before after, source = before ++ after ∧ byteLength before = offset

/-- A range of bytes that begins and ends between characters of a text. -/
structure ValidRange (source : List Char) (range : Span) : Prop where
  ordered : range.start ≤ range.stop
  inside : range.stop ≤ byteLength source
  starts : Boundary source range.start
  stops : Boundary source range.stop

/-- The text in a range of bytes, if the range is valid. -/
def slice? (source : List Char) (range : Span) : Option (List Char) :=
  (takeBytes? range.stop source).bind fun through =>
    (takeBytes? range.start through).map fun before => through.drop before.length

section

variable {source shown : List Char} {range : Span}

theorem slice?_eq_some_iff : slice? source range = some shown ↔
    ∃ before after, source = before ++ (shown ++ after) ∧ byteLength before = range.start ∧
      byteLength (before ++ shown) = range.stop := by
  simp only [slice?, Option.bind_eq_some_iff, Option.map_eq_some_iff, takeBytes?_eq_some_iff]
  constructor
  · rintro ⟨through, ⟨after, rfl, stop⟩, before, ⟨rest, rfl, start⟩, rfl⟩
    rw [List.drop_left]
    exact ⟨before, after, List.append_assoc _ _ _, start, stop⟩
  · rintro ⟨before, after, rfl, start, stop⟩
    exact ⟨before ++ shown, ⟨after, (List.append_assoc _ _ _).symm, stop⟩, before,
      ⟨shown, rfl, start⟩, List.drop_left⟩

theorem validRange_of_slice? (h : slice? source range = some shown) : ValidRange source range := by
  obtain ⟨before, after, rfl, start, stop⟩ := slice?_eq_some_iff.1 h
  have bytes := byteLength_append before shown
  refine ⟨by omega, ?_, ⟨before, _, rfl, start⟩, before ++ shown, after, ?_, stop⟩
  · rw [← List.append_assoc, byteLength_append, stop]
    omega
  · rw [List.append_assoc]

end

/-! ## The lines before a line -/

namespace LineTable

theorem prefixWithin_append (front rest : List Char) :
    prefixWithin (byteLength front) (front ++ rest) = front := by
  induction front with
  | nil =>
    cases rest with
    | nil => rfl
    | cons c more =>
      have positive := c.utf8Size_pos
      have wide : ¬ c.utf8Size ≤ byteLength [] := Nat.not_le.2 positive
      rw [List.nil_append, prefixWithin, if_neg wide]
  | cons c more ih =>
    rw [List.cons_append, prefixWithin, byteLength_cons, if_pos (Nat.le_add_right _ _),
      Nat.add_sub_cancel_left, ih]

/-- Where the line behind `n` others begins, or the end of the text if there are fewer. -/
theorem start_placedFrom (text : List Char) (start n : Nat) :
    (((placedFrom start (splitOn '\n' text))[n]?).map (·.start)).getD (start + byteLength text) =
      start + byteLength ((terminatedLines text).take n).flatten := by
  induction text using line_induction generalizing start n with
  | last piece h =>
    rw [splitOn_last h, terminatedLines_last h]
    cases n with
    | zero => rfl
    | succ n => by_cases empty : piece = [] <;> simp [placedFrom, empty]
  | line piece rest h ih =>
    rw [splitOn_line h, terminatedLines_line h, placedFrom]
    cases n with
    | zero => rfl
    | succ n =>
      have bytes : start + byteLength (piece ++ '\n' :: rest) =
          start + byteLength piece + 1 + byteLength rest := by
        rw [byteLength_append, byteLength_cons, Nat.add_assoc, Nat.add_assoc]
        rfl
      have feed : byteLength ['\n'] = 1 := rfl
      rw [List.getElem?_cons_succ, bytes, ih, List.take_succ_cons, List.flatten_cons,
        byteLength_append, byteLength_append, feed]
      omega

end LineTable

/-- The lines before a line, each with its end. -/
def linesBefore (source : List Char) (n : Nat) : List Char :=
  ((terminatedLines source).take (n - 1)).flatten

section

variable (source : List Char) (n : Nat)

theorem startOf_ofSource :
    (LineTable.ofSource source).startOf n = byteLength (linesBefore source n) := by
  cases n with
  | zero => rfl
  | succ n =>
    have start := LineTable.start_placedFrom source 0 n
    rw [Nat.zero_add, Nat.zero_add] at start
    rw [linesBefore, Nat.add_sub_cancel, ← start]
    simp only [LineTable.startOf, LineTable.line?, LineTable.ofSource, List.getElem?_toArray]
    cases (LineTable.placedFrom 0 (splitOn '\n' source))[n]? <;> rfl

theorem prefix_chopReturn (line : List Char) : chopReturn line <+: line := by
  rw [chopReturn]
  split
  · exact List.dropLast_prefix line
  · exact List.prefix_refl line

theorem prefix_pieceText_zero (text : List Char) : pieceText text 0 <+: text := by
  by_cases feed : '\n' ∈ text
  · obtain ⟨piece, rest, rfl, bare⟩ := List.eq_append_cons_of_mem feed
    rw [pieceText_zero bare (.inr ⟨rest, rfl⟩)]
    exact (prefix_chopReturn piece).trans (List.prefix_append _ _)
  · have first := pieceText_zero feed (.inl rfl)
    rw [List.append_nil] at first
    rw [first]
    exact prefix_chopReturn text

/-- A line stands behind the lines before it, also if it is empty because there is none. -/
theorem source_eq_append : ∃ after,
    source = linesBefore source n ++ ((LineTable.ofSource source).textOf n ++ after) := by
  cases n with
  | zero => exact ⟨source, rfl⟩
  | succ n =>
    have place := pieceText_drop source n 0
    obtain ⟨after, cut⟩ := prefix_pieceText_zero ((terminatedLines source).drop n).flatten
    refine ⟨after, ?_⟩
    rw [textOf_eq_pieceText, ← Nat.add_zero n, place, Nat.add_zero, cut, linesBefore,
      Nat.add_sub_cancel, ← List.flatten_append, List.take_append_drop, flatten_terminatedLines]

end

/-! ## What a line shows -/

/-- The white space at the head of a line. -/
def indentOf (text : List Char) : List Char := text.takeWhile isWhiteSpace

section

variable (text : List Char)

theorem indentOf_append_trimStart : indentOf text ++ trimStart text = text :=
  List.takeWhile_append_dropWhile

theorem prefix_trim : trim text <+: trimStart text :=
  List.rdropWhile_prefix isWhiteSpace _

theorem trim_ne_nil (h : trimStart text ≠ []) : trim text ≠ [] := by
  intro none
  have white := List.rdropWhile_eq_nil_iff.1 none
  have first := List.head?_dropWhile_not isWhiteSpace text
  cases cut : text.dropWhile isWhiteSpace with
  | nil => exact h cut
  | cons c rest =>
    rw [cut] at white first
    have own := white c List.mem_cons_self
    simp [own] at first

/-- White space behind a text that shows something does not reach what stands before. -/
theorem trimEnd_eq_append (h : trimStart text ≠ []) :
    trimEnd text = indentOf text ++ trim text := by
  have visible : ((trimStart text).reverse.dropWhile isWhiteSpace).isEmpty = false := by
    have shown := trim_ne_nil text h
    rw [List.isEmpty_eq_false_iff]
    exact fun none => shown (congrArg List.reverse none)
  have cut := indentOf_append_trimStart text
  calc trimEnd text = trimEnd (indentOf text ++ trimStart text) := by rw [cut]
    _ = indentOf text ++ trim text := by
      rw [trimEnd, dropEndWhile, List.reverse_append, List.dropWhile_append, visible,
        if_neg Bool.false_ne_true, List.reverse_append, List.reverse_reverse]
      rfl

/-- The end of what a line shows, counted in bytes from where it begins. -/
theorem max_trimEnd : max (byteLength (trimEnd text)) (byteLength (indentOf text)) =
    byteLength (indentOf text ++ trim text) := by
  by_cases h : trimStart text = []
  · have white := List.dropWhile_eq_nil_iff.1 h
    have none : trimEnd text = [] := List.rdropWhile_eq_nil_iff.2 white
    have blank : trim text = [] := by
      rw [trim, trimWhere, ← trimStart, h]
      rfl
    rw [none, blank, List.append_nil]
    exact Nat.max_eq_right (Nat.zero_le _)
  · rw [trimEnd_eq_append text h, byteLength_append]
    omega

end

/-- The place of a line is what it shows, behind the lines before it and its indentation. -/
theorem positionOf_eq (table : LineTable) (n : Nat) : table.positionOf n =
    { line := n
      column := ⟨(indentOf (table.textOf n)).length + 1,
        (indentOf (table.textOf n) ++ trim (table.textOf n)).length + 1⟩
      offset := ⟨table.startOf n + byteLength (indentOf (table.textOf n)),
        table.startOf n + byteLength (indentOf (table.textOf n) ++ trim (table.textOf n))⟩ } := by
  generalize hl : table.textOf n = text
  have whole := indentOf_append_trimStart text
  obtain ⟨trail, visible⟩ := prefix_trim text
  have before : LineTable.prefixWithin (byteLength (indentOf text)) text = indentOf text := by
    have cut := LineTable.prefixWithin_append (indentOf text) (trimStart text)
    rwa [whole] at cut
  have through : LineTable.prefixWithin (byteLength (indentOf text ++ trim text)) text =
      indentOf text ++ trim text := by
    have cut := LineTable.prefixWithin_append (indentOf text ++ trim text) trail
    rwa [List.append_assoc, visible, whole] at cut
  simp only [LineTable.positionOf, LineTable.positionOfBytes, hl]
  rw [← indentOf, before, max_trimEnd, Nat.max_eq_left, through]
  rw [byteLength_append]
  omega

section

variable (source : List Char) (n : Nat)

theorem source_eq_shown : ∃ after, source = linesBefore source n ++
    (indentOf ((LineTable.ofSource source).textOf n) ++
      (trim ((LineTable.ofSource source).textOf n) ++ after)) := by
  obtain ⟨after, cut⟩ := source_eq_append source n
  generalize (LineTable.ofSource source).textOf n = text at cut ⊢
  obtain ⟨trail, visible⟩ := prefix_trim text
  refine ⟨trail ++ after, cut.trans ?_⟩
  rw [← List.append_assoc (trim text), visible, ← List.append_assoc (indentOf text),
    indentOf_append_trimStart]

/-- The text at the place of a line is what the line shows. -/
theorem slice?_positionOf :
    slice? source ((LineTable.ofSource source).positionOf n).offset =
      some (trim ((LineTable.ofSource source).textOf n)) := by
  obtain ⟨after, cut⟩ := source_eq_shown source n
  rw [positionOf_eq, startOf_ofSource]
  refine slice?_eq_some_iff.2 ⟨_, after, cut.trans (List.append_assoc _ _ _).symm, ?_, ?_⟩
  · exact byteLength_append _ _
  · rw [List.append_assoc, byteLength_append]

/-- The text between the beginning of a line and its place is its indentation. -/
theorem slice?_indent :
    slice? source ⟨byteLength (linesBefore source n),
        ((LineTable.ofSource source).positionOf n).offset.start⟩ =
      some (indentOf ((LineTable.ofSource source).textOf n)) := by
  obtain ⟨after, cut⟩ := source_eq_shown source n
  rw [positionOf_eq, startOf_ofSource]
  exact slice?_eq_some_iff.2 ⟨_, _, cut, rfl, byteLength_append _ _⟩

end

end DocModel

import DocModel.Proofs.Splitting
import DocModel.Source.LineTable

/-!
# DocModel.Proofs.Source.Offsets

From the bytes of a document back to its lines. A line ends with the line feed that follows it, so
the line of a byte is found by counting the lines that begin at or before it.

* `lineAt_within`: the bytes from the beginning of a line to its end stand on that line;
* `lineAt_positionOf`: so does the place of what a line shows, if there is such a line.
-/

namespace DocModel

open Text

theorem byteLength_append (first second : List Char) :
    byteLength (first ++ second) = byteLength first + byteLength second := by
  induction first with
  | nil => simp [byteLength]
  | cons c rest ih =>
    simp only [byteLength, List.cons_append, List.foldr_cons] at ih ⊢
    omega

theorem byteLength_chopReturn_le (line : List Char) :
    byteLength (chopReturn line) ≤ byteLength line := by
  rw [chopReturn]
  split
  · obtain ⟨last, cut⟩ := List.dropLast_prefix line
    rw [← congrArg byteLength cut, byteLength_append]
    omega
  · exact Nat.le_refl _

namespace LineTable

/-- The number of the line on which a byte stands. -/
def lineAt (table : LineTable) (offset : Nat) : Nat :=
  table.lines.toList.countP fun line => line.start ≤ offset

theorem le_start_placedFrom {start : Nat} {pieces : List (List Char)} :
    ∀ line ∈ placedFrom start pieces, start ≤ line.start := by
  induction pieces generalizing start with
  | nil => nofun
  | cons piece rest ih =>
    intro line hl
    rw [placedFrom] at hl
    rcases List.mem_cons.1 hl with rfl | hl
    · exact Nat.le_refl start
    · have later := ih line hl
      omega

/-- Up to its end a line is the last one that has begun. -/
theorem countP_placedFrom {start offset i : Nat} {pieces : List (List Char)} {line : PlacedLine}
    (h : (placedFrom start pieces)[i]? = some line) (first : line.start ≤ offset)
    (last : offset ≤ line.start + byteLength line.raw) :
    (placedFrom start pieces).countP (fun line => line.start ≤ offset) = i + 1 := by
  induction pieces generalizing start i with
  | nil => cases h
  | cons piece rest ih =>
    rw [placedFrom] at h ⊢
    cases i with
    | zero =>
      cases h
      -- the next line begins behind the line feed
      have none : (placedFrom (start + byteLength piece + 1) rest).countP
          (fun line => line.start ≤ offset) = 0 := by
        refine List.countP_eq_zero.2 fun other ho => ?_
        have later := le_start_placedFrom other ho
        simp only [decide_eq_true_eq]
        dsimp only at last
        omega
      rw [List.countP_cons_of_pos (by simpa using first), none]
    | succ i =>
      rw [List.getElem?_cons_succ] at h
      have later := le_start_placedFrom line (List.mem_of_getElem? h)
      have begun : start ≤ offset := by omega
      rw [List.countP_cons_of_pos (by simpa using begun), ih h]

/-- Every line begins inside the text, if each is followed by a line feed. -/
theorem start_lt_of_mem_placedFrom {start : Nat} {pieces : List (List Char)} :
    ∀ line ∈ placedFrom start pieces, line.start < start + byteLength (terminated pieces) := by
  induction pieces generalizing start with
  | nil => nofun
  | cons piece rest ih =>
    intro line hl
    have length : byteLength (terminated (piece :: rest)) =
        byteLength piece + (1 + byteLength (terminated rest)) := by
      rw [terminated_cons, byteLength_append]
      rfl
    rw [placedFrom] at hl
    rcases List.mem_cons.1 hl with rfl | hl
    · dsimp only
      omega
    · have later := ih line hl
      omega

section

variable {source : List Char} {n : Nat} {line : PlacedLine}

theorem lineAt_size :
    (ofSource source).lineAt (ofSource source).size = (ofSource source).lines.size := by
  have length : byteLength (terminated (splitOn '\n' source)) = byteLength source + 1 := by
    rw [terminated_splitOn, byteLength_append]
    rfl
  rw [lineAt, ← Array.length_toList]
  refine List.countP_eq_length.2 fun line hl => ?_
  have inside := start_lt_of_mem_placedFrom line hl
  have begun : line.start ≤ byteLength source := by omega
  exact decide_eq_true begun

theorem startOf_of_line {table : LineTable} (h : table.line? n = some line) :
    table.startOf n = line.start := by
  have positive : (n == 0) = false := by
    cases n with
    | zero => cases h
    | succ n => rfl
  simp [startOf, positive, h]

theorem le_size_of_line {table : LineTable} (h : table.line? n = some line) :
    n ≤ table.lines.size := by
  cases n with
  | zero => exact Nat.zero_le _
  | succ i =>
    obtain ⟨inside, -⟩ := Array.getElem?_eq_some_iff.1 h
    exact inside

theorem exists_line {table : LineTable} (h : table.textOf n ≠ []) :
    ∃ line, table.line? n = some line := by
  cases hl : table.line? n with
  | none =>
    rw [textOf, hl] at h
    exact absurd rfl h
  | some line => exact ⟨line, rfl⟩

theorem lineAt_within (h : (ofSource source).line? n = some line) {k : Nat}
    (hk : k ≤ byteLength ((ofSource source).textOf n)) :
    (ofSource source).lineAt ((ofSource source).startOf n + k) = n := by
  have length : byteLength ((ofSource source).textOf n) ≤ byteLength line.raw := by
    rw [textOf, h]
    exact byteLength_chopReturn_le line.raw
  cases n with
  | zero => cases h
  | succ i =>
    have found : (placedFrom 0 (splitOn '\n' source))[i]? = some line := by
      simpa [line?, ofSource] using h
    rw [startOf_of_line h]
    exact countP_placedFrom found (Nat.le_add_right _ k) (by omega)

theorem byteLength_prefixWithin_le (k : Nat) (text : List Char) :
    byteLength (prefixWithin k text) ≤ byteLength text := by
  induction text generalizing k with
  | nil => simp [prefixWithin]
  | cons c rest ih =>
    rw [prefixWithin]
    split
    · have later := ih (k - c.utf8Size)
      simp only [byteLength, List.foldr_cons] at later ⊢
      omega
    · exact Nat.zero_le _

/-- The place of a line is on this line, or on the last one if there is no such line. -/
theorem lineAt_positionOf (positive : 0 < n) :
    (ofSource source).lineAt ((ofSource source).positionOf n).offset.start =
      min n (ofSource source).lines.size := by
  cases h : (ofSource source).line? n with
  | some line =>
    rw [Nat.min_eq_left (le_size_of_line h)]
    exact lineAt_within h (byteLength_prefixWithin_le _ _)
  | none =>
    have outside : (ofSource source).lines.size < n := by
      cases n with
      | zero => cases positive
      | succ i => exact Nat.lt_succ_of_le (Array.getElem?_eq_none_iff.1 h)
    have atEnd : ((ofSource source).positionOf n).offset.start = (ofSource source).size := by
      have nonzero : n ≠ 0 := Nat.ne_of_gt positive
      simp [positionOf, positionOfBytes, startOf, textOf, h, nonzero, prefixWithin, byteLength]
    rw [atEnd, lineAt_size, Nat.min_eq_right (Nat.le_of_lt outside)]

theorem lineAt_le_size (table : LineTable) (offset : Nat) :
    table.lineAt offset ≤ table.lines.size := by
  rw [lineAt, ← Array.length_toList]
  exact List.countP_le_length

end

end LineTable
end DocModel

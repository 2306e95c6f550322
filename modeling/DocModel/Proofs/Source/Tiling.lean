import DocModel.Proofs.Source.Slices

/-!
# DocModel.Proofs.Source.Tiling

The table of the lines of a text covers the text without a gap, and every place that it gives is in
its line.

* `lineSlice?_eq`: between the beginnings of two lines stand the text of the first and its end;
* `flatten_lineSlices`: these stretches put together give the text;
* `count_ofSource`: the empty line behind a last line feed is not counted;
* `prefix_prefixWithin_iff`: an offset is cut back to the last boundary before it, so that two
  offsets that are cut back stay in their order (`inLine_positionOfBytes`).
-/

namespace DocModel

open Text

/-! ## Whole lines -/

/-- The stretch of a text from where a line begins to where the next one does. -/
def lineSlice? (source : List Char) (n : Nat) : Option (List Char) :=
  slice? source
    ⟨(LineTable.ofSource source).startOf n, (LineTable.ofSource source).startOf (n + 1)⟩

/-- The ends that a line may have; the last one has no line feed. -/
def lineEnds (isLast : Bool) : List (List Char) :=
  if isLast then [[], ['\r']] else [['\n'], ['\r', '\n']]

section

variable (source : List Char)

theorem size_ofSource :
    (LineTable.ofSource source).lines.size = (splitOn '\n' source).length := by
  have raw := congrArg List.length (raw_placedFrom 0 (splitOn '\n' source))
  rwa [List.length_map] at raw

theorem linesBefore_succ (i : Nat) : linesBefore source (i + 2) =
    linesBefore source (i + 1) ++ ((terminatedLines source)[i]?).getD [] := by
  simp only [linesBefore, Nat.add_sub_cancel, Nat.add_succ_sub_one, List.take_add_one,
    List.flatten_append]
  cases (terminatedLines source)[i]? with
  | none => rfl
  | some line => simp

/-- Line ends included, the line at an index is what stands between two beginnings. -/
theorem lineSlice?_succ (i : Nat) :
    lineSlice? source (i + 1) = some (((terminatedLines source)[i]?).getD []) := by
  have whole : linesBefore source (i + 2) ++ ((terminatedLines source).drop (i + 1)).flatten =
      source := by
    rw [linesBefore, ← List.flatten_append, Nat.add_succ_sub_one, List.take_append_drop,
      flatten_terminatedLines]
  rw [linesBefore_succ, List.append_assoc] at whole
  rw [lineSlice?, startOf_ofSource, startOf_ofSource]
  refine slice?_eq_some_iff.2 ⟨linesBefore source (i + 1), _, whole.symm, rfl, ?_⟩
  rw [← linesBefore_succ]

theorem length_terminatedLines_le :
    (terminatedLines source).length ≤ (splitOn '\n' source).length := by
  induction source using line_induction with
  | last piece h =>
    rw [splitOn_last h, terminatedLines_last h]
    split <;> simp
  | line piece rest h ih =>
    rw [splitOn_line h, terminatedLines_line h, List.length_cons, List.length_cons]
    exact Nat.succ_le_succ ih

/-- The stretches between the beginnings of lines put together give the text. -/
theorem flatten_lineSlices : ∃ pieces : List (List Char),
    (List.range' 1 (LineTable.ofSource source).lines.size).map (lineSlice? source) =
      pieces.map some ∧ pieces.flatten = source := by
  have lines : ∀ k, ((List.range k).map fun i => ((terminatedLines source)[i]?).getD []).flatten =
      linesBefore source (k + 1) := by
    intro k
    induction k with
    | zero => rfl
    | succ k ih =>
      rw [List.range_succ, List.map_append, List.flatten_append, ih, linesBefore_succ,
        List.map_singleton, List.flatten_singleton]
  refine ⟨(List.range (LineTable.ofSource source).lines.size).map fun i =>
    ((terminatedLines source)[i]?).getD [], ?_, ?_⟩
  · rw [List.range'_eq_map_range, List.map_map, List.map_map]
    refine List.map_congr_left fun i _ => ?_
    rw [Function.comp_apply, Nat.add_comm, lineSlice?_succ]
    rfl
  · rw [lines, linesBefore, Nat.add_sub_cancel, size_ofSource,
      List.take_of_length_le (length_terminatedLines_le source), flatten_terminatedLines]

theorem getD_terminatedLines {piece : List Char} {i : Nat}
    (h : (splitOn '\n' source)[i]? = some piece) : ((terminatedLines source)[i]?).getD [] =
      piece ++ if i + 1 = (splitOn '\n' source).length then [] else ['\n'] := by
  induction source using line_induction generalizing i with
  | last whole bare =>
    rw [splitOn_last bare] at h ⊢
    rw [terminatedLines_last bare]
    cases i with
    | zero =>
      obtain rfl : whole = piece := by simpa using h
      by_cases empty : whole = [] <;> simp [empty]
    | succ i => simp at h
  | line first rest bare ih =>
    have more : (splitOn '\n' rest).length ≠ 0 := by
      exact mt List.length_eq_zero_iff.1 (splitWhere_ne_nil _ rest)
    rw [splitOn_line bare] at h ⊢
    rw [terminatedLines_line bare]
    cases i with
    | zero =>
      obtain rfl : first = piece := by simpa using h
      rw [List.length_cons, if_neg (by omega)]
      rfl
    | succ i =>
      rw [List.getElem?_cons_succ] at h ⊢
      rw [ih h, List.length_cons]
      simp only [Nat.add_right_cancel_iff]

theorem exists_return (line : List Char) :
    ∃ ending, (ending = [] ∨ ending = ['\r']) ∧ line = chopReturn line ++ ending := by
  rw [chopReturn]
  split
  · next last =>
    obtain ⟨front, rfl⟩ := List.getLast?_eq_some_iff.1 (beq_iff_eq.1 last)
    exact ⟨['\r'], .inr rfl, by rw [List.dropLast_concat]⟩
  · exact ⟨[], .inl rfl, (List.append_nil line).symm⟩

/-- Between the beginnings of two lines stand the text of the first and its end. -/
theorem lineSlice?_eq {n : Nat} (first : 1 ≤ n)
    (last : n ≤ (LineTable.ofSource source).lines.size) :
    ∃ ending ∈ lineEnds (n == (LineTable.ofSource source).lines.size),
      lineSlice? source n = some ((LineTable.ofSource source).textOf n ++ ending) := by
  obtain ⟨i, rfl⟩ := Nat.exists_eq_add_of_le' first
  rw [size_ofSource] at last ⊢
  have piece : (splitOn '\n' source)[i]? = some (splitOn '\n' source)[i] :=
    List.getElem?_eq_getElem last
  obtain ⟨ending, kind, cut⟩ := exists_return (splitOn '\n' source)[i]
  rw [lineSlice?_succ, getD_terminatedLines source piece, textOf_ofSource piece]
  by_cases final : i + 1 = (splitOn '\n' source).length
  · refine ⟨ending, ?_, ?_⟩
    · simpa [lineEnds, final] using kind
    · rw [if_pos final, List.append_nil, ← cut]
  · refine ⟨ending ++ ['\n'], ?_, ?_⟩
    · rcases kind with rfl | rfl <;> simp [lineEnds, final]
    · rw [if_neg final, ← List.append_assoc, ← cut]

/-! ## The number of lines -/

/-- A text is lines with their line feeds and a last piece without one. -/
theorem exists_lastPiece : ∃ front last, splitOn '\n' source = front ++ [last] ∧
    source = terminated front ++ last ∧ '\n' ∉ last := by
  obtain ⟨front, last, cut⟩ :=
    (List.eq_nil_or_concat' (splitOn '\n' source)).resolve_left (splitWhere_ne_nil _ source)
  have whole : terminated front ++ last ++ ['\n'] = source ++ ['\n'] := by
    rw [← terminated_splitOn source, cut, terminated_append, terminated_cons, List.append_assoc]
    rfl
  have piece : last ∈ splitOn '\n' source := by
    rw [cut]
    exact List.mem_append_right front List.mem_cons_self
  exact ⟨front, last, cut, (List.append_cancel_right whole).symm, notMem_of_mem_splitOn piece⟩

/-- The empty line behind a last line feed is not counted. -/
theorem count_ofSource : (LineTable.ofSource source).count =
    if source.getLast? = some '\n' then (LineTable.ofSource source).lines.size - 1
    else (LineTable.ofSource source).lines.size := by
  obtain ⟨front, last, cut, whole, bare⟩ := exists_lastPiece source
  have raw : ((LineTable.placedFrom 0 (splitOn '\n' source)).getLast?).map (·.raw) =
      some last := by
    rw [← List.getLast?_map, raw_placedFrom, cut, List.getLast?_concat]
  obtain ⟨placed, found, rfl⟩ := Option.map_eq_some_iff.1 raw
  have size : (LineTable.ofSource source).lines.size = front.length + 1 := by
    rw [size_ofSource, cut, List.length_append]
    rfl
  have feed : (placed.raw.isEmpty && decide (front.length + 1 > 1)) = true ↔
      source.getLast? = some '\n' := by
    rw [whole]
    cases text : placed.raw with
    | nil =>
      cases front using List.reverseRecOn with
      | nil => simp [terminated]
      | append_singleton before line => simp [terminated]
    | cons c more =>
      rw [text] at bare
      refine iff_of_false (by simp) fun feed => bare (List.mem_of_getLast? ?_)
      rwa [List.getLast?_append_of_ne_nil _ (List.cons_ne_nil c more)] at feed
  rw [LineTable.count, size]
  simp only [LineTable.ofSource, List.back?_toArray, found, feed]

end

/-! ## Places -/

/-- The last boundary of a text up to a limit. -/
structure LastBoundary (text : List Char) (limit offset : Nat) : Prop where
  boundary : Boundary text offset
  within : offset ≤ limit
  last : ∀ other, Boundary text other → other ≤ limit → other ≤ offset

namespace LineTable

/-- What a text is cut back to is the longest of its beginnings within the limit. -/
theorem prefix_prefixWithin_iff {limit : Nat} {text front : List Char} :
    front <+: prefixWithin limit text ↔ front <+: text ∧ byteLength front ≤ limit := by
  induction text generalizing limit front with
  | nil =>
    rw [prefixWithin, List.prefix_nil]
    refine ⟨fun empty => ⟨empty, ?_⟩, And.left⟩
    rw [empty]
    exact Nat.zero_le limit
  | cons c rest ih =>
    cases front with
    | nil => simp [byteLength]
    | cons d more =>
      rw [prefixWithin, byteLength_cons, List.cons_prefix_cons]
      split
      · next fits =>
        rw [List.cons_prefix_cons, ih, and_assoc]
        refine and_congr_right fun same => and_congr_right fun _ => ?_
        rw [same]
        omega
      · next wide =>
        refine iff_of_false (by simp) ?_
        rintro ⟨⟨rfl, -⟩, short⟩
        omega

theorem prefixWithin_prefix (limit : Nat) (text : List Char) :
    prefixWithin limit text <+: text ∧ byteLength (prefixWithin limit text) ≤ limit :=
  prefix_prefixWithin_iff.1 (List.prefix_refl _)

end LineTable

theorem byteLength_le_of_prefix {front text : List Char} (h : front <+: text) :
    byteLength front ≤ byteLength text := by
  obtain ⟨rest, rfl⟩ := h
  rw [byteLength_append]
  exact Nat.le_add_right _ _

theorem boundary_iff {text : List Char} {offset : Nat} :
    Boundary text offset ↔ ∃ front, front <+: text ∧ byteLength front = offset := by
  constructor
  · rintro ⟨front, rest, rfl, bytes⟩
    exact ⟨front, List.prefix_append front rest, bytes⟩
  · rintro ⟨front, ⟨rest, rfl⟩, bytes⟩
    exact ⟨front, rest, rfl, bytes⟩

theorem lastBoundary_prefixWithin (limit : Nat) (text : List Char) :
    LastBoundary text limit (byteLength (LineTable.prefixWithin limit text)) := by
  obtain ⟨inside, short⟩ := LineTable.prefixWithin_prefix limit text
  refine ⟨boundary_iff.2 ⟨_, inside, rfl⟩, short, fun other stands below => ?_⟩
  obtain ⟨front, own, rfl⟩ := boundary_iff.1 stands
  exact byteLength_le_of_prefix (LineTable.prefix_prefixWithin_iff.2 ⟨own, below⟩)

/-- A limit that is itself cut back may take the place of another one. -/
theorem LastBoundary.of_max {text : List Char} {start stop k offset : Nat}
    (first : LastBoundary text start k) (h : LastBoundary text (max stop k) offset) :
    LastBoundary text (max start stop) offset := by
  refine ⟨h.boundary, ?_, fun other stands below => h.last other stands ?_⟩
  · have := h.within
    have := first.within
    omega
  · have := first.last other stands
    omega

/-- Two offsets cut back to boundaries of a text cut it in three. -/
theorem exists_cutBack (text : List Char) (start stop : Nat) : ∃ before shown after,
    text = before ++ (shown ++ after) ∧ LineTable.prefixWithin start text = before ∧
      LineTable.prefixWithin (max stop (byteLength before)) text = before ++ shown ∧
      LastBoundary text start (byteLength before) ∧
      LastBoundary text (max start stop) (byteLength (before ++ shown)) := by
  have begins := lastBoundary_prefixWithin start text
  obtain ⟨own, -⟩ := LineTable.prefixWithin_prefix start text
  generalize LineTable.prefixWithin start text = before at *
  have ends := lastBoundary_prefixWithin (max stop (byteLength before)) text
  obtain ⟨⟨after, cut⟩, -⟩ := LineTable.prefixWithin_prefix (max stop (byteLength before)) text
  -- what the second offset is cut back to begins with what the first one is
  obtain ⟨shown, through⟩ := LineTable.prefix_prefixWithin_iff.2
    ⟨own, Nat.le_max_right stop (byteLength before)⟩
  rw [← through] at cut ends
  exact ⟨before, shown, after, by rw [← cut, List.append_assoc], rfl, through.symm, begins,
    begins.of_max ends⟩

/-- A place given by bytes of a line: both ends cut back to boundaries of the line. -/
structure InLine (source : List Char) (table : LineTable) (n start stop : Nat)
    (p : SourcePosition) : Prop where
  /-- It is on the line that was asked for. -/
  line : p.line = n
  /-- It is a stretch of the text between two boundaries. -/
  range : ValidRange source p.offset
  /-- It begins and ends inside the line, which is empty outside the document. -/
  inside : table.startOf n ≤ p.offset.start ∧
    p.offset.stop ≤ table.startOf n + byteLength (table.textOf n)
  /-- Behind the last line it is the end of the text. -/
  outside : table.lines.size < n → p.offset = ⟨byteLength source, byteLength source⟩
  /-- It begins at the last boundary up to the first byte. -/
  starts : ∃ k, LastBoundary (table.textOf n) start k ∧ p.offset.start = table.startOf n + k
  /-- It ends at the last boundary up to the end, or up to the first byte if that is later. -/
  stops : ∃ k, LastBoundary (table.textOf n) (max start stop) k ∧
    p.offset.stop = table.startOf n + k
  /-- The columns count the characters before it and in it. -/
  columns : ∃ before shown after, table.textOf n = before ++ (shown ++ after) ∧
    slice? source p.offset = some shown ∧
    p.column = ⟨before.length + 1, before.length + shown.length + 1⟩

section

variable (source : List Char)

theorem line?_outside {table : LineTable} {n : Nat} (h : table.lines.size < n) :
    table.line? n = none := by
  cases n with
  | zero => cases h
  | succ i => exact Array.getElem?_eq_none (Nat.le_of_lt_succ h)

theorem startOf_outside {table : LineTable} {n : Nat} (h : table.lines.size < n) :
    table.startOf n = table.size := by
  have positive : (n == 0) = false := by
    simpa using Nat.ne_of_gt (Nat.zero_lt_of_lt h)
  rw [LineTable.startOf, positive, line?_outside h]
  rfl

/-- Both ends of a place are cut back to boundaries of its line, and in order. -/
theorem inLine_positionOfBytes (n start stop : Nat) :
    InLine source (.ofSource source) n start stop
      ((LineTable.ofSource source).positionOfBytes n start stop) := by
  obtain ⟨rest, cut⟩ := source_eq_append source n
  have base := startOf_ofSource source n
  obtain ⟨before, shown, after, split, front, through, begins, ends⟩ :=
    exists_cutBack ((LineTable.ofSource source).textOf n) start stop
  have place : (LineTable.ofSource source).positionOfBytes n start stop =
      { line := n
        column := ⟨before.length + 1, (before ++ shown).length + 1⟩
        offset := ⟨(LineTable.ofSource source).startOf n + byteLength before,
          (LineTable.ofSource source).startOf n + byteLength (before ++ shown)⟩ } := by
    simp only [LineTable.positionOfBytes, front, through]
  have slice : slice? source ((LineTable.ofSource source).positionOfBytes n start stop).offset =
      some shown := by
    rw [place, base]
    refine slice?_eq_some_iff.2 ⟨linesBefore source n ++ before, after ++ rest, ?_, ?_, ?_⟩
    · rw [split] at cut
      simpa using cut
    · exact byteLength_append _ _
    · rw [List.append_assoc, byteLength_append]
  have bytes : byteLength (before ++ shown) ≤ byteLength ((LineTable.ofSource source).textOf n) :=
    byteLength_le_of_prefix ⟨after, by rw [split, List.append_assoc]⟩
  refine ⟨rfl, validRange_of_slice? slice, ?_, fun far => ?_, ?_, ?_, before, shown, after, split,
    slice, ?_⟩
  · rw [place]
    exact ⟨Nat.le_add_right _ _, Nat.add_le_add_left bytes _⟩
  · have empty : (LineTable.ofSource source).textOf n = [] := by
      rw [LineTable.textOf, line?_outside far]
    rw [empty] at split
    obtain ⟨rfl, later⟩ := List.append_eq_nil_iff.1 split.symm
    obtain ⟨rfl, -⟩ := List.append_eq_nil_iff.1 later
    rw [place, startOf_outside far]
    rfl
  · exact ⟨_, begins, by rw [place]⟩
  · exact ⟨_, ends, by rw [place]⟩
  · rw [place, List.length_append]

end

/-- The lines of a table cover their text, and its places are in them. -/
structure Tiles (source : List Char) (table : LineTable) : Prop where
  /-- What stands between the beginnings of lines, put together, is the text. -/
  whole : ∃ pieces : List (List Char),
    (List.range' 1 table.lines.size).map (lineSlice? source) = pieces.map some ∧
      pieces.flatten = source
  /-- Each such stretch is the text of the line and its end. -/
  lines : ∀ n, 1 ≤ n → n ≤ table.lines.size → ∃ ending ∈ lineEnds (n == table.lines.size),
    lineSlice? source n = some (table.textOf n ++ ending)
  /-- The text of a line holds no line feed. -/
  single : ∀ n, '\n' ∉ table.textOf n
  /-- All lines are counted but the empty one behind a last line feed. -/
  count : table.count =
    if source.getLast? = some '\n' then table.lines.size - 1 else table.lines.size
  /-- A place given by a line and bytes is in this line. -/
  places : ∀ n start stop, InLine source table n start stop (table.positionOfBytes n start stop)

/-- The table of a text tiles it. -/
theorem lines_tile (source : List Char) : Tiles source (.ofSource source) where
  whole := flatten_lineSlices source
  lines := fun _ => lineSlice?_eq source
  single := textOf_single source
  count := count_ofSource source
  places := inLine_positionOfBytes source

/-- Half a character is cut off at the beginning of a line, a lone carriage return at its end. -/
example : ((LineTable.ofSource "a\r\n\u00fcb\r".toList).positionOfBytes 2 1 9) =
    { line := 2, column := ⟨1, 3⟩, offset := ⟨3, 6⟩ } := by decide

end DocModel

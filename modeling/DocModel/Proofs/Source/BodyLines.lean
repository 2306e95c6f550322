import DocModel.Proofs.Source.Lines

/-!
# DocModel.Proofs.Source.BodyLines

The lines that the block structure sees and those of the table of a document. The first end at a
carriage return as well, the others at line feeds only, and they count from the first line of the
front matter.

* `pairedReturns` holds of a text in which the two agree on where lines end;
* `textOf_parts` finds the lines of the body in the table of the whole document;
* `textOf_body_iff`: all of them are those of the block structure exactly if returns are paired.
-/

namespace DocModel

open Text Markdown

/-- Whether every carriage return stands before a line feed or at the end. -/
def pairedReturns : List Char → Bool
  | [] => true
  | c :: rest => (c != '\r' || rest.isEmpty || rest.head? == some '\n') && pairedReturns rest

/-! ## Pieces between line feeds -/

/-- A text is a piece without a line feed, or such a piece, a line feed and a shorter text. -/
theorem line_induction {motive : List Char → Prop}
    (last : ∀ piece, '\n' ∉ piece → motive piece)
    (line : ∀ piece rest, '\n' ∉ piece → motive rest → motive (piece ++ '\n' :: rest))
    (text : List Char) : motive text := by
  by_cases h : '\n' ∈ text
  · obtain ⟨piece, rest, cut, bare⟩ := List.eq_append_cons_of_mem h
    rw [cut]
    exact line piece rest bare (line_induction last line rest)
  · exact last text h
termination_by text.length
decreasing_by
  rw [cut, List.length_append, List.length_cons]
  omega

section

variable {piece line rest : List Char}

theorem splitOn_last (h : '\n' ∉ piece) : splitOn '\n' piece = [piece] := by
  refine splitWhere_of_forall fun c hc => ?_
  have other : c ≠ '\n' := fun e => h (e ▸ hc)
  simpa using other

theorem splitOn_line (h : '\n' ∉ piece) (rest : List Char) :
    splitOn '\n' (piece ++ '\n' :: rest) = piece :: splitOn '\n' rest := by
  refine splitWhere_append_cons (fun c hc => ?_) (by decide) rest
  have other : c ≠ '\n' := fun e => h (e ▸ hc)
  simpa using other

theorem terminatedLines_last (h : '\n' ∉ piece) :
    terminatedLines piece = if piece = [] then [] else [piece] := by
  induction piece with
  | nil => rfl
  | cons c more ih =>
    have feed : c ≠ '\n' := fun e => h (e ▸ List.mem_cons_self)
    have later := ih fun hm => h (List.mem_cons_of_mem _ hm)
    rw [terminatedLines_cons feed, later, if_neg (List.cons_ne_nil c more)]
    by_cases he : more = [] <;> simp [he]

/-! ## Carriage returns -/

/-- What can follow a piece: the end of the text, or a line feed. -/
def EndsLine (more : List Char) : Prop := more = [] ∨ ∃ rest, more = '\n' :: rest

theorem chopReturn_append (line : List Char) (h : rest ≠ []) :
    chopReturn (line ++ rest) = line ++ chopReturn rest := by
  rw [chopReturn, chopReturn, List.getLast?_append_of_ne_nil line h]
  split
  · rw [List.dropLast_append_of_ne_nil h]
  · rfl

/-- A piece has no return, or its first one is its end, or more stands behind that. -/
theorem piece_cases (piece : List Char) : '\r' ∉ piece ∨
    ∃ line, '\r' ∉ line ∧ (piece = line ++ ['\r'] ∨
      ∃ c rest, piece = line ++ '\r' :: c :: rest) := by
  by_cases h : '\r' ∈ piece
  · obtain ⟨line, rest, cut, unreturned⟩ := List.eq_append_cons_of_mem h
    refine .inr ⟨line, unreturned, ?_⟩
    cases rest with
    | nil => exact .inl cut
    | cons c more => exact .inr ⟨c, more, cut⟩
  · exact .inl h

theorem chopReturn_returned (line : List Char) : chopReturn (line ++ ['\r']) = line := by
  rw [chopReturn_append line (List.cons_ne_nil _ _)]
  exact List.append_nil line

theorem chopReturn_lone (line : List Char) (c : Char) (rest : List Char) :
    chopReturn (line ++ '\r' :: c :: rest) = line ++ '\r' :: chopReturn (c :: rest) := by
  have split : line ++ '\r' :: c :: rest = line ++ ['\r'] ++ c :: rest := by simp
  rw [split, chopReturn_append _ (List.cons_ne_nil c rest), List.append_assoc]
  rfl

theorem pairedReturns_append (h : '\r' ∉ line) (rest : List Char) :
    pairedReturns (line ++ rest) = pairedReturns rest := by
  induction line with
  | nil => rfl
  | cons c more ih =>
    have unreturned : c ≠ '\r' := fun e => h (e ▸ List.mem_cons_self)
    rw [List.cons_append, pairedReturns, ih fun hm => h (List.mem_cons_of_mem _ hm)]
    simp [unreturned]

/-- Returns are paired in a piece if its text has none. -/
theorem pairedReturns_piece (h : '\n' ∉ piece) {more : List Char} (hm : EndsLine more) :
    pairedReturns (piece ++ more) = true ↔
      '\r' ∉ chopReturn piece ∧ pairedReturns more = true := by
  rcases piece_cases piece with none | ⟨line, unreturned, rfl | ⟨c, rest, rfl⟩⟩
  · rw [pairedReturns_append none, chopReturn_unreturned none]
    exact ⟨fun hp => ⟨none, hp⟩, And.right⟩
  · have paired : pairedReturns ('\r' :: more) = pairedReturns more := by
      rcases hm with rfl | ⟨rest, rfl⟩ <;> simp [pairedReturns]
    rw [List.append_assoc, pairedReturns_append unreturned, chopReturn_returned]
    exact ⟨fun hp => ⟨unreturned, paired ▸ hp⟩, fun hp => paired.trans hp.2⟩
  · have other : c ≠ '\n' := fun e => h (by simp [e])
    rw [List.append_assoc, pairedReturns_append unreturned, chopReturn_lone]
    simp [pairedReturns, other]

/-! ## Lines of the block structure -/

theorem bodyLines_return (h : rest.head? ≠ some '\n') :
    bodyLines ('\r' :: rest) = [] :: bodyLines rest := by
  cases rest with
  | nil => simp [bodyLines]
  | cons c more =>
    have other : c ≠ '\n' := fun e => h (by rw [e]; rfl)
    exact bodyLines.eq_3 _ fun _ e => other (List.cons.inj e).1

theorem bodyLines_pair (rest : List Char) :
    bodyLines ('\r' :: '\n' :: rest) = [] :: bodyLines rest := by
  simp [bodyLines]

theorem bodyLines_last (h : OneLine line) : bodyLines line = if line = [] then [] else [line] := by
  induction line with
  | nil => simp [bodyLines]
  | cons c more ih =>
    have feed : c ≠ '\n' := fun e => h.feed (e ▸ List.mem_cons_self)
    have unreturned : c ≠ '\r' := fun e => h.unreturned (e ▸ List.mem_cons_self)
    have later := ih h.of_cons
    rw [if_neg (List.cons_ne_nil c more)]
    cases more with
    | nil => simp [bodyLines]
    | cons d rest =>
      rw [if_neg (List.cons_ne_nil d rest)] at later
      exact bodyLines.eq_7 c _ _ _ unreturned feed (by simp) (fun _ e => absurd e unreturned) later

theorem bodyLines_piece (h : '\n' ∉ piece) (hr : '\r' ∉ chopReturn piece) (rest : List Char) :
    bodyLines (piece ++ '\n' :: rest) = chopReturn piece :: bodyLines rest := by
  rcases piece_cases piece with none | ⟨line, unreturned, rfl | ⟨c, more, rfl⟩⟩
  · rw [chopReturn_unreturned none]
    exact bodyLines_append ⟨h, none⟩ (bodyLines_feed rest)
  · have feed : '\n' ∉ line := fun hm => h (List.mem_append_left _ hm)
    rw [chopReturn_returned, List.append_assoc]
    exact bodyLines_append ⟨feed, unreturned⟩ (bodyLines_pair rest)
  · rw [chopReturn_lone] at hr
    exact absurd (List.mem_append_right line List.mem_cons_self) hr

theorem bodyLines_lastPiece (h : '\n' ∉ piece) (hr : '\r' ∉ chopReturn piece) :
    bodyLines piece = if piece = [] then [] else [chopReturn piece] := by
  rcases piece_cases piece with none | ⟨line, unreturned, rfl | ⟨c, more, rfl⟩⟩
  · rw [chopReturn_unreturned none]
    exact bodyLines_last ⟨h, none⟩
  · have feed : '\n' ∉ line := fun hm => h (List.mem_append_left _ hm)
    rw [chopReturn_returned, if_neg (by simp)]
    have ended : bodyLines ['\r'] = [[]] := by simp [bodyLines]
    exact bodyLines_append ⟨feed, unreturned⟩ ended
  · rw [chopReturn_lone] at hr
    exact absurd (List.mem_append_right line List.mem_cons_self) hr

/-- A lone return ends a line of the block structure inside a piece. -/
theorem bodyLines_lone (h : '\n' ∉ piece) (hr : '\r' ∈ chopReturn piece) (more : List Char) :
    ∃ line later, bodyLines (piece ++ more) = line :: later ∧ chopReturn piece ≠ line := by
  rcases piece_cases piece with none | ⟨line, unreturned, rfl | ⟨c, rest, rfl⟩⟩
  · rw [chopReturn_unreturned none] at hr
    exact absurd hr none
  · rw [chopReturn_returned] at hr
    exact absurd hr unreturned
  · have feed : '\n' ∉ line := fun hm => h (List.mem_append_left _ hm)
    have other : (c :: rest ++ more).head? ≠ some '\n' := by
      intro e
      exact h (by simp [Option.some.inj e])
    refine ⟨line, bodyLines (c :: rest ++ more), ?_, ?_⟩
    · rw [List.append_assoc]
      exact bodyLines_append ⟨feed, unreturned⟩ (bodyLines_return other)
    · rw [chopReturn_lone]
      intro same
      exact unreturned (same ▸ List.mem_append_right line List.mem_cons_self)

/-! ## The two ways to cut a text -/

/-- The text of the piece at an index, without its return; empty behind the last piece. -/
def pieceText (text : List Char) (i : Nat) : List Char :=
  (((splitOn '\n' text)[i]?).map chopReturn).getD []

theorem pieceText_zero (h : '\n' ∉ piece) {more : List Char} (hm : EndsLine more) :
    pieceText (piece ++ more) 0 = chopReturn piece := by
  rcases hm with rfl | ⟨rest, rfl⟩
  · rw [pieceText, List.append_nil, splitOn_last h]
    rfl
  · rw [pieceText, splitOn_line h]
    rfl

theorem pieceText_succ (h : '\n' ∉ piece) (rest : List Char) (i : Nat) :
    pieceText (piece ++ '\n' :: rest) (i + 1) = pieceText rest i := by
  rw [pieceText, splitOn_line h]
  rfl

/-- Both ways give the same lines exactly if returns are paired. -/
theorem pieceText_bodyLines_iff (text : List Char) :
    (∀ i line, (bodyLines text)[i]? = some line → pieceText text i = line) ↔
      pairedReturns text = true := by
  induction text using line_induction with
  | last piece h =>
    have paired := pairedReturns_piece h (.inl rfl)
    have first := pieceText_zero h (.inl rfl)
    rw [List.append_nil] at paired first
    rw [paired]
    refine ⟨fun same => ⟨fun hr => ?_, rfl⟩, fun hp i line hl => ?_⟩
    · obtain ⟨line, later, cut, other⟩ := bodyLines_lone h hr []
      rw [List.append_nil] at cut
      exact other (first.symm.trans (same 0 line (by rw [cut]; rfl)))
    · rw [bodyLines_lastPiece h hp.1] at hl
      split at hl
      · cases hl
      · cases i with
        | zero => exact first.trans (Option.some.inj hl)
        | succ i => cases hl
  | line piece rest h ih =>
    have ends : EndsLine ('\n' :: rest) := .inr ⟨rest, rfl⟩
    have paired := pairedReturns_piece h ends
    have first := pieceText_zero h ends
    have later : pairedReturns ('\n' :: rest) = pairedReturns rest := by simp [pairedReturns]
    rw [paired, later, ← ih]
    refine ⟨fun same => ?_, fun ⟨hr, same⟩ i line hl => ?_⟩
    · have unreturned : '\r' ∉ chopReturn piece := by
        intro hr
        obtain ⟨line, later, cut, other⟩ := bodyLines_lone h hr ('\n' :: rest)
        exact other (first.symm.trans (same 0 line (by rw [cut]; rfl)))
      refine ⟨unreturned, fun i line hl => ?_⟩
      rw [← pieceText_succ h]
      refine same (i + 1) line ?_
      rw [bodyLines_piece h unreturned]
      exact hl
    · rw [bodyLines_piece h hr] at hl
      cases i with
      | zero => exact first.trans (Option.some.inj hl)
      | succ i =>
        rw [pieceText_succ h]
        exact same i line hl

end

/-! ## Byte order marks and null characters -/

namespace Markdown

/-- The byte order mark at the head of a text, which is no part of its first line. -/
def markOf (text : List Char) : List Char :=
  if text.head? == some '\uFEFF' then ['\uFEFF'] else []

/-- The text behind the byte order mark. -/
def unmarked (text : List Char) : List Char :=
  match text with
  | '\uFEFF' :: rest => rest
  | _ => text

/-- What stands before a line of a text, counted from zero. -/
def markBefore (text : List Char) (i : Nat) : List Char := if i = 0 then markOf text else []

theorem unmarked_cases (text : List Char) :
    (markOf text = [] ∧ unmarked text = text) ∨
      (markOf text = ['\uFEFF'] ∧ text = '\uFEFF' :: unmarked text) := by
  unfold unmarked
  split
  · exact .inr ⟨rfl, rfl⟩
  · next other =>
    refine .inl ⟨if_neg ?_, rfl⟩
    cases text with
    | nil => simp
    | cons c rest =>
      intro first
      exact other rest (by rw [Option.some.inj (eq_of_beq first)])

theorem cleaned_eq (text : List Char) : cleaned text = cleanLine (unmarked text) := rfl

theorem cleanChar_iff {c d : Char} (h : d ≠ '\uFFFD' ∧ d ≠ '\x00') : cleanChar c = d ↔ c = d := by
  refine ⟨cleanChar_eq h.1, ?_⟩
  rintro rfl
  simp [cleanChar, h.2]

theorem cleanChar_feed {c : Char} : cleanChar c = '\n' ↔ c = '\n' := cleanChar_iff (by decide)

theorem cleanChar_return {c : Char} : cleanChar c = '\r' ↔ c = '\r' := cleanChar_iff (by decide)

theorem bodyLines_cleanLine (text : List Char) :
    bodyLines (cleanLine text) = (bodyLines text).map cleanLine := by
  induction text using bodyLines.induct with
  | case1 => rfl
  | case2 rest ih =>
    rw [bodyLines_pair, List.map_cons, ← ih]
    exact bodyLines_pair _
  | case3 rest unpaired ih =>
    rw [bodyLines.eq_3 rest unpaired, List.map_cons, ← ih]
    refine bodyLines_return ?_
    cases rest with
    | nil => simp
    | cons c more =>
      intro feed
      exact unpaired more (by rw [cleanChar_feed.1 (Option.some.inj feed)])
  | case4 rest ih =>
    rw [bodyLines_feed, List.map_cons, ← ih]
    exact bodyLines_feed _
  | case5 c unreturned feed _ _ =>
    have line : OneLine [c] := oneLine_of_forall (by simpa using ⟨feed, unreturned⟩)
    have clean : OneLine (cleanLine [c]) := oneLine_cleanLine line
    rw [bodyLines_last line, bodyLines_last clean]
    rfl
  | case6 c rest unpaired unreturned feed none some ih =>
    rw [none] at ih
    rw [bodyLines.eq_6 c rest unreturned feed some unpaired none]
    refine bodyLines.eq_6 _ _ (fun e => unreturned (cleanChar_return.1 e))
      (fun e => feed (cleanChar_feed.1 e)) (by simpa [cleanLine] using some) ?_ ih
    exact fun _ e => absurd (cleanChar_return.1 e) unreturned
  | case7 c rest unpaired unreturned feed line later cut some ih =>
    rw [cut] at ih
    rw [bodyLines.eq_7 c rest line later unreturned feed some unpaired cut]
    refine bodyLines.eq_7 _ _ _ _ (fun e => unreturned (cleanChar_return.1 e))
      (fun e => feed (cleanChar_feed.1 e)) (by simpa [cleanLine] using some) ?_ ih
    exact fun _ e => absurd (cleanChar_return.1 e) unreturned

/-- The lines of the block structure are those behind the byte order mark. -/
theorem bodyLines_cleaned (text : List Char) :
    bodyLines (cleaned text) = (bodyLines (unmarked text)).map cleanLine := by
  rw [cleaned_eq, bodyLines_cleanLine]

theorem pairedReturns_unmarked (text : List Char) :
    pairedReturns (unmarked text) = pairedReturns text := by
  rcases unmarked_cases text with ⟨-, same⟩ | ⟨-, cut⟩
  · rw [same]
  · have behind := @pairedReturns_append ['\uFEFF'] (by decide) (unmarked text)
    rw [cut]
    exact behind.symm

theorem chopReturn_mark (piece : List Char) :
    chopReturn ('\uFEFF' :: piece) = '\uFEFF' :: chopReturn piece := by
  cases piece with
  | nil => rfl
  | cons c rest => exact chopReturn_append ['\uFEFF'] (List.cons_ne_nil c rest)

/-- A byte order mark stands before the first line and changes no other. -/
theorem pieceText_unmarked (text : List Char) (i : Nat) :
    pieceText text i = markBefore text i ++ pieceText (unmarked text) i := by
  rcases unmarked_cases text with ⟨none, same⟩ | ⟨mark, cut⟩
  · rw [markBefore, none, same, ite_self, List.nil_append]
  · have pieces : splitOn '\n' text = splitOn '\n' ('\uFEFF' :: unmarked text) := by rw [← cut]
    rw [markBefore, mark, pieceText, pieceText, pieces]
    generalize unmarked text = rest
    rw [splitOn, splitOn, splitWhere, if_neg (by decide)]
    cases hs : splitWhere (· == '\n') rest with
    | nil => exact absurd hs (splitWhere_ne_nil _ _)
    | cons piece more =>
      cases i with
      | zero => exact chopReturn_mark piece
      | succ i => rfl

end Markdown

/-! ## The body of a document -/

theorem textOf_eq_pieceText (source : List Char) (i : Nat) :
    (LineTable.ofSource source).textOf (i + 1) = pieceText source i := by
  rw [pieceText]
  cases hp : (splitOn '\n' source)[i]? with
  | some piece => exact textOf_ofSource hp
  | none =>
    have raw : ((LineTable.placedFrom 0 (splitOn '\n' source)).map (·.raw))[i]? = none := by
      rw [raw_placedFrom, hp]
    rw [List.getElem?_map, Option.map_eq_none_iff] at raw
    simp only [LineTable.textOf, LineTable.line?, LineTable.ofSource, List.getElem?_toArray, raw]
    rfl

/-- Whole lines at the head of a text can be left out. -/
theorem pieceText_drop (text : List Char) (n i : Nat) :
    pieceText text (n + i) = pieceText ((terminatedLines text).drop n).flatten i := by
  induction text using line_induction generalizing n with
  | last piece h =>
    cases n with
    | zero => rw [Nat.zero_add, List.drop_zero, flatten_terminatedLines]
    | succ n =>
      have nothing : (terminatedLines piece).drop (n + 1) = [] := by
        rw [terminatedLines_last h]
        split <;> simp
      rw [nothing, pieceText, splitOn_last h, Nat.add_right_comm]
      cases i <;> rfl
  | line piece rest h ih =>
    cases n with
    | zero => rw [Nat.zero_add, List.drop_zero, flatten_terminatedLines]
    | succ n =>
      rw [Nat.add_right_comm, pieceText_succ h, terminatedLines_line h, List.drop_succ_cons]
      exact ih n

namespace Dialect

/-- The body of a document is what follows its first lines. -/
theorem body_partsOf {source : List Char} {parts : Parts} (h : partsOf source = .ok parts) :
    parts.body = ((terminatedLines source).drop parts.offset).flatten := by
  rw [partsOf] at h
  split at h
  · cases h
    exact (flatten_terminatedLines source).symm
  · next first rest lines =>
    split at h
    · split at h
      · next yaml body found =>
        cases h
        obtain ⟨delimiter, rfl⟩ := eq_append_of_splitAtDelimiter found
        simp [lines]
      · cases h
    · cases h
      exact (flatten_terminatedLines source).symm

/-- The lines of the body stand in the document behind those of the front matter. -/
theorem textOf_parts {source : List Char} {parts : Parts} (h : partsOf source = .ok parts)
    (i : Nat) :
    (LineTable.ofSource source).textOf (parts.offset + i + 1) = pieceText parts.body i := by
  rw [textOf_eq_pieceText, pieceText_drop, ← body_partsOf h]

/-- Every line of the block structure is read back from the table, at its number in the document,
exactly if returns are paired in the body. -/
theorem textOf_body_iff {source : List Char} {parts : Parts} (h : partsOf source = .ok parts) :
    (∀ i line, (bodyLines (unmarked parts.body))[i]? = some line →
      (LineTable.ofSource source).textOf (parts.offset + i + 1) = markBefore parts.body i ++ line) ↔
      pairedReturns parts.body = true := by
  rw [← pairedReturns_unmarked, ← pieceText_bodyLines_iff]
  have read : ∀ i line, (LineTable.ofSource source).textOf (parts.offset + i + 1) =
      markBefore parts.body i ++ line ↔ pieceText (unmarked parts.body) i = line := by
    intro i line
    rw [textOf_parts h, pieceText_unmarked]
    exact List.append_right_inj _
  exact forall_congr' fun i => forall_congr' fun line => imp_congr_right fun _ => read i line

end Dialect
end DocModel

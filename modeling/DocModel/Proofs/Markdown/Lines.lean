import DocModel.Proofs.Markdown.Placement

/-!
# DocModel.Proofs.Markdown.Lines

What single lines do to the open blocks: empty lines, headings, and the lines of a code block.

* `openStep_blank`, `openStep_heading` tell what the markers of a line do;
* `readLine_rest`, `readLine_title`, `readLine_fence` read a line in a document without open blocks;
* `closeAll` finishes every block inside the document;
* `closeHeads_preserves` and `closeUnder_preserves` take what finishing one block preserves to the
  loops that finish several.
-/

namespace DocModel
namespace Markdown

/-- The document with its finished blocks, the latest first. -/
def document (blocks : List Block) : OpenBlock :=
  { kind := .document, firstLine := 1, children := blocks }

/-- The chain with every block inside the outermost finished. -/
def closeAll (closing : Closing) (chain : List OpenBlock) : List OpenBlock :=
  closeHeads closing (chain.length - 1) chain

/-! ## Places in a line -/

section

variable {c : Char} {rest : List Char} {column : Nat} {insideTab : Bool}

theorem text_cons (hc : isSpaceOrTab c = false) :
    (Cursor.mk (c :: rest) column insideTab).text = c :: rest := by
  rw [Cursor.text, List.dropWhile_cons_of_neg (by simp [hc])]

theorem columnAfterBlanks_cons (hc : isSpaceOrTab c = false) :
    Cursor.columnAfterBlanks column (c :: rest) = column := by
  simp only [isSpaceOrTab, Bool.or_eq_false_iff] at hc
  simp [Cursor.columnAfterBlanks, hc.1, hc.2]

theorem indent_cons (hc : isSpaceOrTab c = false) :
    (Cursor.mk (c :: rest) column insideTab).indent = 0 := by
  rw [Cursor.indent, columnAfterBlanks_cons hc, Nat.sub_self]

theorem isBlank_cons (hc : isSpaceOrTab c = false) :
    (Cursor.mk (c :: rest) column insideTab).isBlank = false := by
  rw [Cursor.isBlank, text_cons hc]
  rfl

end

@[simp] theorem text_skipAll (cur : Cursor) : cur.skipAll.text = [] := rfl

@[simp] theorem isBlank_skipAll (cur : Cursor) : cur.skipAll.isBlank = true := rfl

/-! ## Markers -/

section

variable {state : LineState} {block : OpenBlock} {outer : List OpenBlock} {line depth : Nat}

theorem openStep_blank (hc : state.chain = block :: outer) (ht : state.cur.text = []) :
    openStep state line depth = .done := by
  have blank : state.cur.isBlank = true := by rw [Cursor.isBlank, ht]; rfl
  have table : tableStep state = .done := by
    obtain ⟨kind, first, lines, children⟩ := block
    cases kind with
    | paragraph noTable =>
      cases noTable with
      | true => simp only [tableStep, hc]
      | false => rw [tableStep_paragraph hc rfl, ht]; rfl
    | table => simp only [tableStep, hc, blank, if_true]
    | _ => simp only [tableStep, hc]
  rw [openStep_cons hc, ht, blank, table]
  split
  · rw [Bool.not_true, Bool.and_false, if_neg Bool.false_ne_true]
  · cases block.kind.isParagraph <;> rfl

theorem openBlocks_blank (fuel : Nat) (ht : state.cur.text = []) :
    openBlocks line fuel depth state = state := by
  cases fuel with
  | zero => rfl
  | succ fuel =>
    cases hc : state.chain with
    | nil => simp only [openBlocks, hc]
    | cons block outer =>
      simp only [openBlocks, hc, openStep_blank hc ht, ite_self]

section

variable (hc : state.chain = block :: outer) (hv : block.kind.isVerbatim = false) (fuel : Nat)
include hc hv

theorem openBlocks_done (h : openStep state line depth = .done) :
    openBlocks line (fuel + 1) depth state = state := by
  simp only [openBlocks, hc, hv, h, ite_self]

theorem openBlocks_opened {next : LineState} (h : openStep state line depth = .opened next) :
    openBlocks line (fuel + 1) depth state =
      openBlocks line fuel (depth + 1) { next with mayBeLazy := false } := by
  simp only [openBlocks, hc, hv, h, Bool.false_eq_true, if_false]

theorem openBlocks_last {next : LineState} (h : openStep state line depth = .last next) :
    openBlocks line (fuel + 1) depth state = next := by
  simp only [openBlocks, hc, hv, h, Bool.false_eq_true, if_false]

end

theorem runLength_cons_ne {c d : Char} (h : c ≠ d) (rest : List Char) :
    runLength d (c :: rest) = 0 := by
  rw [runLength, List.takeWhile_cons_of_neg (by simpa using h)]
  rfl

theorem head_of_headingLevel? {text : List Char} {level : Nat}
    (h : headingLevel? text = some level) : ∃ rest, text = '#' :: rest := by
  cases text with
  | nil => cases h
  | cons c rest =>
    by_cases hc : c = '#'
    · exact ⟨rest, by rw [hc]⟩
    · simp [headingLevel?, runLength_cons_ne hc] at h

theorem openStep_heading (hc : state.chain = block :: outer) {level : Nat}
    (h : headingLevel? state.cur.rest = some level) :
    openStep state line depth =
      .last (state.opened line (.heading level) state.cur.skipAll) := by
  obtain ⟨chain, pending, ⟨rest, column, insideTab⟩, mayBeLazy⟩ := state
  obtain ⟨rest, rfl⟩ := head_of_headingLevel? h
  rw [openStep_cons hc, indent_cons rfl, text_cons rfl]
  simp only [List.head?_cons, h]
  rfl

end

/-! ## Closing blocks -/

section

variable {closing : Closing} {chain : List OpenBlock}

theorem closeHeads_add (first second : Nat) :
    closeHeads closing (first + second) chain =
      closeHeads closing second (closeHeads closing first chain) := by
  induction first generalizing chain with
  | zero => rw [Nat.zero_add, closeHeads]
  | succ first ih => rw [Nat.add_right_comm, closeHeads, closeHeads, ih]

/-- What finishing one block preserves, finishing several of them preserves. -/
theorem closeHeads_preserves {motive : List OpenBlock → Prop}
    (step : ∀ chain, motive chain → motive (closeHead closing chain)) (count : Nat)
    (h : motive chain) : motive (closeHeads closing count chain) := by
  induction count generalizing chain with
  | zero => exact h
  | succ count ih => exact ih (step chain h)

theorem closeUnder_preserves {motive : List OpenBlock → Prop}
    (step : ∀ chain, motive chain → motive (closeHead closing chain)) (kind : OpenKind)
    (count : Nat) (h : motive chain) : motive (closeUnder closing kind count chain) := by
  induction count generalizing chain with
  | zero => exact h
  | succ count ih =>
    cases chain with
    | nil => exact h
    | cons block outer =>
      rw [closeUnder]
      split
      · exact h
      · exact ih (step (block :: outer) h)

theorem closeAll_single (block : OpenBlock) (blocks : List Block) :
    closeAll closing [block, document blocks] =
      [document ((block.finish (closing.lastLine block.kind)).toList ++ blocks)] := rfl

end

theorem readLines_append (first second : List (List Char)) (line : Nat)
    (chain : List OpenBlock) : readLines chain line (first ++ second) =
      readLines (readLines chain line first) (line + first.length) second := by
  induction first generalizing chain line with
  | nil => rfl
  | cons text more ih =>
    rw [List.cons_append, readLines, ih, readLines, List.length_cons, Nat.add_right_comm,
      Nat.add_assoc]

/-! ## Lines in a document without open blocks -/

section

variable {line : Nat} {blocks : List Block} {state : LineState}

theorem readLine_rest : readLine [document blocks] line [] = [document blocks] := by
  rw [@readLine_eq _ (document blocks) [] rfl]
  simp only [descend, settle]
  rw [openBlocks_blank _ rfl]
  rfl

theorem settle_heading {text : List Char} {level : Nat} (h : headingLevel? text = some level)
    {block : OpenBlock} {outer : List OpenBlock} (hv : block.kind.isVerbatim = false)
    (mayBeLazy : Bool) (pending : List OpenBlock) (lazy : Bool) :
    settle line text mayBeLazy (.reached ⟨block :: outer, pending, { rest := text }, lazy⟩) =
      openChild line (.heading level)
        (closeHeads (.onLine line) pending.length (pending.reverse ++ block :: outer)) := by
  have step := @openStep_heading ⟨block :: outer, pending, { rest := text }, mayBeLazy⟩ block outer
    line 0 rfl level h
  rw [settle, openBlocks_last rfl hv _ step, LineState.opened, finishLine]
  simp only [List.reverse_nil, openChild, LineState.settled]
  rw [addText_cons rfl, isBlank_skipAll, if_pos rfl]

theorem readLine_title {text : List Char} {level : Nat} (h : headingLevel? text = some level) :
    readLine [document blocks] line text =
      [{ kind := .heading level, firstLine := line }, document blocks] := by
  rw [@readLine_eq _ (document blocks) [] rfl]
  exact settle_heading h rfl _ [] _

theorem readLine_heading (level first : Nat) :
    readLine [{ kind := .heading level, firstLine := first }, document blocks] line [] =
      [document (.node (.heading level) first (line - 1) [] :: blocks)] := by
  rw [@readLine_eq _ (document blocks) [{ kind := .heading level, firstLine := first }] rfl]
  simp only [descend, document, OpenBlock.continues, settle]
  rw [openBlocks_blank _ rfl]
  rfl

/-! ## Code blocks -/

/-- A block of code that is open, with its lines, the latest first. -/
def openCode (first : Nat) (lines : List (List Char)) : OpenBlock :=
  { kind := .fenced '\x60' 3 0, firstLine := first, lines }

/-- The info text of the code blocks of the normal form. -/
def python : List Char := ['p', 'y', 't', 'h', 'o', 'n']

theorem readLine_fence :
    readLine [document blocks] line ('\x60' :: '\x60' :: '\x60' :: python) =
      [openCode line [python], document blocks] := by
  rfl

theorem readLine_code {first : Nat} {lines : List (List Char)} {text : List Char}
    (h : closesFence '\x60' 3 (text.dropWhile isSpaceOrTab) = false) :
    readLine [openCode first lines, document blocks] line text =
      [openCode first (text :: lines), document blocks] := by
  have within : ∀ hasChild, (openCode first lines).continues hasChild { rest := text } =
      .within { rest := text } := by
    intro hasChild
    simp only [OpenBlock.continues, openCode, Cursor.text, h, Bool.and_false, Bool.false_eq_true,
      if_false, skipBlanksUpTo]
  have reached : descend [document blocks] [openCode first lines] { rest := text } =
      .reached ⟨[openCode first lines, document blocks], [], { rest := text }, false⟩ := by
    simp only [descend, within]
  rw [@readLine_eq _ (document blocks) [openCode first lines] rfl, reached,
    settle]
  rfl

theorem readLine_closing {first : Nat} {lines : List (List Char)} (info : List Char) :
    readLine [openCode first (lines ++ [info]), document blocks] line ['\x60', '\x60', '\x60'] =
      [document (.node (.code true (unescape (Text.trimWhere isAsciiSpace (decodeEntities info)))
        lines.reverse) first line [] :: blocks)] := by
  rw [@readLine_eq _ (document blocks) [openCode first (lines ++ [info])] rfl]
  have closing : descend [document blocks] [openCode first (lines ++ [info])]
      { rest := ['\x60', '\x60', '\x60'] } =
        .fenced [openCode first (lines ++ [info]), document blocks] := rfl
  rw [closing, settle]
  simp only [closeHead, OpenBlock.finish, openCode, List.reverse_append, List.reverse_cons]
  rfl

/-! ## Paragraphs -/

theorem readLine_paragraph {paragraph : OpenBlock} (hp : paragraph.kind.isParagraph = true) :
    readLine [paragraph, document blocks] line [] =
      [document ((paragraph.finish (line - 1)).toList ++ blocks)] := by
  obtain ⟨kind, first, lines, children⟩ := paragraph
  cases kind with
  | paragraph noTable =>
    have reached : descend [document blocks] [⟨.paragraph noTable, first, lines, children⟩]
        { rest := [] } = .reached ⟨[document blocks],
          [⟨.paragraph noTable, first, lines, children⟩], { rest := [] }, false⟩ := rfl
    rw [@readLine_eq _ (document blocks) [_] rfl, reached, settle,
      openBlocks_blank _ rfl]
    rfl
  | _ => cases hp

end

end Markdown
end DocModel

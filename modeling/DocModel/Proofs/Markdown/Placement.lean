import DocModel.Markdown.Document

/-!
# DocModel.Proofs.Markdown.Placement

What lines mean does not depend on where they stand: `readLines_placed` says that lines further down
in a document, below blocks that are finished, are read as if they stood alone.

* `Block.down` moves a block down by a number of lines;
* `OpenBlock.placed` moves an open block down, and the document gets the blocks above.
-/

namespace DocModel
namespace Markdown

mutual

/-- A block that stands a number of lines further down. -/
def Block.down (k : Nat) : Block → Block
  | .node kind first last children => .node kind (first + k) (last + k) (downAll k children)

/-- Blocks that stand a number of lines further down. -/
def downAll (k : Nat) : List Block → List Block
  | [] => []
  | block :: blocks => block.down k :: downAll k blocks

end

theorem downAll_eq_map (k : Nat) (blocks : List Block) :
    downAll k blocks = blocks.map (Block.down k) := by
  induction blocks with
  | nil => rfl
  | cons block rest ih => rw [downAll, ih, List.map_cons]

/-- An open block that stands a number of lines further down; a document has blocks above. -/
def OpenBlock.placed (k : Nat) (above : List Block) (block : OpenBlock) : OpenBlock :=
  match block.kind with
  | .document => { block with children := block.children.map (Block.down k) ++ above }
  | _ => { block with firstLine := block.firstLine + k,
                      children := block.children.map (Block.down k) }

/-- A state of a line that stands further down. -/
def LineState.placed (k : Nat) (above : List Block) (state : LineState) : LineState :=
  { state with chain := state.chain.map (·.placed k above),
               pending := state.pending.map (·.placed k above) }

section

variable {k n : Nat} {above : List Block} {block : OpenBlock} {chain : List OpenBlock}

namespace OpenBlock

@[simp] theorem placed_kind : (block.placed k above).kind = block.kind := by
  unfold placed
  split <;> simp_all

@[simp] theorem placed_lines : (block.placed k above).lines = block.lines := by
  unfold placed
  split <;> rfl

@[simp] theorem placed_text : (block.placed k above).text = block.text := by
  rw [text, text, placed_lines]

theorem placed_addLine (line : List Char) :
    (block.placed k above).addLine line = (block.addLine line).placed k above := by
  unfold placed addLine
  split <;> simp_all

theorem placed_addChildren (children : List Block) :
    { block.placed k above with
        children := children.map (Block.down k) ++ (block.placed k above).children } =
      { block with children := children ++ block.children }.placed k above := by
  unfold placed
  split <;> simp_all

/-- A block that is not a document has moved children and nothing else. -/
theorem placed_children (h : block.kind ≠ .document) :
    (block.placed k above).children = block.children.map (Block.down k) := by
  unfold placed
  split
  · next he => exact absurd he h
  · rfl

theorem placed_firstLine (h : block.kind ≠ .document) :
    (block.placed k above).firstLine = block.firstLine + k := by
  unfold placed
  split
  · next he => exact absurd he h
  · rfl

/-- How a line continues a block does not depend on the place of the block. -/
theorem placed_continues (inner : Bool) (cur : Cursor) :
    (block.placed k above).continues (!(block.placed k above).children.isEmpty || inner) cur =
      block.continues (!block.children.isEmpty || inner) cur := by
  by_cases h : block.kind = .document
  · simp only [continues, placed_kind, h]
  · rw [placed_children h, List.isEmpty_map]
    unfold continues
    rw [placed_kind]

theorem placed_finish (last : Nat) :
    (block.placed k above).finish (last + k) = (block.finish last).map (Block.down k) := by
  by_cases h : block.kind = .document
  · simp only [finish, placed_kind, h, Option.map_none]
  · unfold finish
    rw [placed_kind, placed_firstLine h, placed_children h, placed_text, placed_lines]
    cases hk : block.kind <;> simp_all [Block.down, downAll_eq_map]
    all_goals split <;> simp [Block.down, downAll_eq_map]

end OpenBlock

/-! ## Closing and opening blocks -/

theorem lastLine_placed (hn : 1 ≤ n) (kind : OpenKind) :
    (Closing.onLine (n + k)).lastLine kind = (Closing.onLine n).lastLine kind + k := by
  cases kind <;> simp only [Closing.lastLine] <;> omega

theorem closeHead_placed (hn : 1 ≤ n) :
    closeHead (.onLine (n + k)) (chain.map (·.placed k above)) =
      (closeHead (.onLine n) chain).map (·.placed k above) := by
  match chain with
  | [] => rfl
  | [_] => rfl
  | block :: outer :: rest =>
    have kind : (block.placed k above).kind = block.kind := OpenBlock.placed_kind
    simp only [List.map_cons, closeHead, kind, lastLine_placed hn, OpenBlock.placed_finish,
      Option.toList_map, ← OpenBlock.placed_addChildren]

theorem closeHeads_placed (hn : 1 ≤ n) (count : Nat) :
    closeHeads (.onLine (n + k)) count (chain.map (·.placed k above)) =
      (closeHeads (.onLine n) count chain).map (·.placed k above) := by
  induction count generalizing chain with
  | zero => rfl
  | succ count ih => rw [closeHeads, closeHeads, closeHead_placed hn, ih]

theorem closeUnder_placed (hn : 1 ≤ n) (kind : OpenKind) (count : Nat) :
    closeUnder (.onLine (n + k)) kind count (chain.map (·.placed k above)) =
      (closeUnder (.onLine n) kind count chain).map (·.placed k above) := by
  induction count generalizing chain with
  | zero => rfl
  | succ count ih =>
    cases chain with
    | nil => rfl
    | cons block rest =>
      have closed := @ih (closeHead (.onLine n) (block :: rest))
      rw [← closeHead_placed hn] at closed
      simp only [List.map_cons, closeUnder, OpenBlock.placed_kind] at closed ⊢
      split
      · rfl
      · exact closed

theorem openChild_placed (hn : 1 ≤ n) {kind : OpenKind} (hk : kind ≠ .document) :
    openChild (n + k) kind (chain.map (·.placed k above)) =
      (openChild n kind chain).map (·.placed k above) := by
  rw [openChild, openChild, List.length_map, closeUnder_placed hn, List.map_cons]
  congr 1
  unfold OpenBlock.placed
  split
  · next he => exact absurd he hk
  · rfl

namespace LineState

variable {state : LineState}

theorem settled_placed (hn : 1 ≤ n) :
    (state.placed k above).settled (n + k) = (state.settled n).map (·.placed k above) := by
  simp only [settled, placed, List.length_map, ← List.map_reverse, ← List.map_append,
    closeHeads_placed hn]

theorem opened_placed (hn : 1 ≤ n) {kind : OpenKind} (hk : kind ≠ .document) (cur : Cursor) :
    (state.placed k above).opened (n + k) kind cur = (state.opened n kind cur).placed k above := by
  simp only [opened, settled_placed hn, openChild_placed hn hk]
  rfl

end LineState

/-! ## One line -/

/-- What the open blocks make of a line further down. -/
def Descent.placed (k : Nat) (above : List Block) : Descent → Descent
  | .reached state => .reached (state.placed k above)
  | .fenced chain => .fenced (chain.map (·.placed k above))

theorem descend_placed (matched open_ : List OpenBlock) (cur : Cursor) :
    descend (matched.map (·.placed k above)) (open_.map (·.placed k above)) cur =
      (descend matched open_ cur).placed k above := by
  induction open_ generalizing matched cur with
  | nil => rfl
  | cons block inner ih =>
    have same := @OpenBlock.placed_continues k above block (!inner.isEmpty) cur
    simp only [List.map_cons, descend, List.isEmpty_map, same]
    cases block.continues (!block.children.isEmpty || !inner.isEmpty) cur with
    | within next => exact ih (block :: matched) next
    | outside => rfl
    | closing => rfl

/-- What the next marker of a line further down does. -/
def Step.placed (k : Nat) (above : List Block) : Step → Step
  | .done => .done
  | .opened state => .opened (state.placed k above)
  | .last state => .last (state.placed k above)

/-- Whether a block is a list whose items have a marker. -/
def OpenBlock.isListOf (marker : ListMarker) (block : OpenBlock) : Bool :=
  match block.kind with
  | .list other => other == marker
  | _ => false

theorem openItem_eq (state : LineState) (line : Nat) (marker : ListMarker) (length : Nat) :
    openItem state line marker length =
      (if state.chain.head?.any (OpenBlock.isListOf marker) then state
        else state.opened line (.list marker) (itemContent state.cur length).1).opened line
          (.item (itemContent state.cur length).2) (itemContent state.cur length).1 := by
  obtain ⟨chain, pending, cur, mayBeLazy⟩ := state
  unfold openItem
  cases chain with
  | nil => rfl
  | cons block outer =>
    obtain ⟨kind, first, lines, children⟩ := block
    cases kind with
    | list other =>
      by_cases h : (other == marker) = true <;>
        simp [OpenBlock.isListOf, h]
    | _ => rfl

theorem openItem_placed (hn : 1 ≤ n) (state : LineState) (marker : ListMarker) (length : Nat) :
    openItem (state.placed k above) (n + k) marker length =
      (openItem state n marker length).placed k above := by
  have same : (state.placed k above).chain.head?.any (OpenBlock.isListOf marker) =
      state.chain.head?.any (OpenBlock.isListOf marker) := by
    rw [LineState.placed]
    cases state.chain with
    | nil => rfl
    | cons block outer =>
      simp only [List.map_cons, List.head?_cons, Option.any_some, OpenBlock.isListOf,
        OpenBlock.placed_kind]
  have cur : (state.placed k above).cur = state.cur := rfl
  rw [openItem_eq, openItem_eq, same, cur]
  split
  · exact LineState.opened_placed hn (by nofun) _
  · rw [LineState.opened_placed hn (by nofun), LineState.opened_placed hn (by nofun)]

theorem underline_placed (state : LineState) (paragraph : OpenBlock) (outer : List OpenBlock)
    (level : Nat) (hp : paragraph.kind.isParagraph = true) :
    underline (state.placed k above) (paragraph.placed k above)
        (outer.map (·.placed k above)) level =
      (underline state paragraph outer level).placed k above := by
  obtain ⟨kind, first, lines, children⟩ := paragraph
  cases kind <;> cases hp
  unfold underline
  simp only [OpenBlock.placed_text]
  split <;> rfl

/-- The paragraph that the lines before the head of a table make. -/
def preface (first before : Nat) : List Block :=
  if before == 0 then [] else [.node .paragraph first (first + before - 1) []]

theorem preface_placed (first before : Nat) :
    preface (first + k) before = (preface first before).map (Block.down k) := by
  unfold preface
  split
  · rfl
  · next h =>
    have some : before ≠ 0 := by simpa using h
    have last : first + k + before - 1 = first + before - 1 + k := by omega
    rw [last]
    rfl

theorem openTable_cons (state : LineState) (paragraph block : OpenBlock) (rest : List OpenBlock) :
    openTable state paragraph (block :: rest) =
      { state with
          chain :=
            { kind := .table, firstLine := paragraph.firstLine + (paragraph.lines.length - 1) } ::
              { block with
                  children :=
                    preface paragraph.firstLine (paragraph.lines.length - 1) ++ block.children } ::
                rest,
          cur := state.cur.skipAll } := rfl

theorem openTable_placed (state : LineState) (paragraph : OpenBlock) (outer : List OpenBlock)
    (hp : paragraph.kind.isParagraph = true) :
    openTable (state.placed k above) (paragraph.placed k above)
        (outer.map (·.placed k above)) =
      (openTable state paragraph outer).placed k above := by
  have notDocument : paragraph.kind ≠ .document := by
    intro he
    rw [he] at hp
    cases hp
  have table : ∀ before, ({ kind := .table, firstLine := paragraph.firstLine + k + before } :
      OpenBlock) = OpenBlock.placed k above
        { kind := .table, firstLine := paragraph.firstLine + before } := by
    intro before
    rw [OpenBlock.placed, Nat.add_right_comm]
    rfl
  cases outer with
  | nil =>
    simp only [openTable, OpenBlock.placed_firstLine notDocument, OpenBlock.placed_lines, table]
    rfl
  | cons block rest =>
    rw [List.map_cons, openTable_cons, openTable_cons, OpenBlock.placed_firstLine notDocument,
      OpenBlock.placed_lines, table, preface_placed, OpenBlock.placed_addChildren]
    rfl

theorem tableStep_paragraph {state : LineState} {paragraph : OpenBlock} {outer : List OpenBlock}
    (hc : state.chain = paragraph :: outer) (hk : paragraph.kind = .paragraph false) :
    tableStep state =
      if isDelimiterRow state.cur.text then
        if (paragraph.lines.head?.map cellCount).getD 0 == cellCount state.cur.text &&
            0 < (paragraph.lines.head?.map cellCount).getD 0 then
          .opened (openTable state paragraph outer)
        else .last { state with chain := { paragraph with kind := .paragraph true } :: outer }
      else .done := by
  obtain ⟨chain, pending, cur, mayBeLazy⟩ := state
  obtain ⟨kind, first, lines, children⟩ := paragraph
  cases hc
  cases hk
  cases lines <;> rfl

theorem tableStep_placed (state : LineState) :
    tableStep (state.placed k above) = (tableStep state).placed k above := by
  have cur : (state.placed k above).cur = state.cur := rfl
  cases hc : state.chain with
  | nil =>
    obtain ⟨chain, pending, cur, mayBeLazy⟩ := state
    cases hc
    rfl
  | cons block outer =>
    have placed : (state.placed k above).chain =
        block.placed k above :: outer.map (·.placed k above) := by
      rw [LineState.placed, hc, List.map_cons]
    by_cases head : block.kind = .paragraph false
    · rw [tableStep_paragraph placed (by rw [OpenBlock.placed_kind, head]),
        tableStep_paragraph hc head, OpenBlock.placed_lines, cur]
      split
      · split
        · rw [openTable_placed _ _ _ (by rw [head]; rfl)]
          rfl
        · obtain ⟨kind, first, lines, children⟩ := block
          cases head
          rfl
      · rfl
    · obtain ⟨chain, pending, cur, mayBeLazy⟩ := state
      obtain ⟨kind, first, lines, children⟩ := block
      cases hc
      cases kind with
      | paragraph noTable =>
        cases noTable with
        | true => rfl
        | false => exact absurd rfl head
      | table =>
        simp only [tableStep, LineState.placed, List.map_cons, OpenBlock.placed]
        split <;> rfl
      | _ => rfl

/-- What the next marker does where a block is open. Only a paragraph can be underlined. -/
theorem openStep_cons {state : LineState} {block : OpenBlock} {outer : List OpenBlock}
    (hc : state.chain = block :: outer) (line depth : Nat) :
    openStep state line depth =
      if 4 ≤ state.cur.indent then
        if !state.mayBeLazy && !state.cur.isBlank then
          .last (state.opened line .indented (state.cur.skipColumns 4))
        else .done
      else if state.cur.text.head? == some '>' then
        .opened (state.opened line .quote (skipBlanksUpTo 1 (state.cur.skipIndent.skipChars 1)))
      else
        match headingLevel? state.cur.text with
        | some level => .last (state.opened line (.heading level) state.cur.skipAll)
        | none =>
          match openingFence? state.cur.text with
          | some (mark, length) =>
            .last (state.opened line (.fenced mark length state.cur.indentChars)
              (state.cur.skipIndent.skipChars length))
          | none =>
            match openingKind? block.kind.isParagraph state.cur.text with
            | some kind => .opened (state.opened line (.html kind) state.cur)
            | none =>
              match if block.kind.isParagraph then underlineLevel? state.cur.text else none with
              | some level => .last (underline state block outer level)
              | none =>
                if isRule state.cur.text then
                  .opened (state.opened line .rule state.cur.skipAll)
                else
                  match listMarker? block.kind.isParagraph state.cur.text,
                    decide (depth < maxListDepth) with
                  | some (marker, length), true => .opened (openItem state line marker length)
                  | _, _ => tableStep state := by
  obtain ⟨chain, pending, cur, mayBeLazy⟩ := state
  obtain ⟨kind, first, lines, children⟩ := block
  cases hc
  unfold openStep
  dsimp only
  cases kind <;> cases underlineLevel? cur.text <;> rfl

theorem openStep_placed (hn : 1 ≤ n) (state : LineState) (depth : Nat)
    (hc : state.chain ≠ []) :
    openStep (state.placed k above) (n + k) depth =
      (openStep state n depth).placed k above := by
  obtain ⟨block, outer, hc⟩ := List.exists_cons_of_ne_nil hc
  have placed : (state.placed k above).chain =
      block.placed k above :: outer.map (·.placed k above) := by
    rw [LineState.placed, hc, List.map_cons]
  have cur : (state.placed k above).cur = state.cur := rfl
  have mayBeLazy : (state.placed k above).mayBeLazy = state.mayBeLazy := rfl
  rw [openStep_cons placed, openStep_cons hc, cur, mayBeLazy, OpenBlock.placed_kind]
  split
  · split
    · rw [LineState.opened_placed hn (by nofun)]
      rfl
    · rfl
  split
  · rw [LineState.opened_placed hn (by nofun)]
    rfl
  split
  · rw [LineState.opened_placed hn (by nofun)]
    rfl
  split
  · rw [LineState.opened_placed hn (by nofun)]
    rfl
  split
  · rw [LineState.opened_placed hn (by nofun)]
    rfl
  split
  · next level underlined =>
    have hp : block.kind.isParagraph = true := by
      cases h : block.kind.isParagraph with
      | true => rfl
      | false => simp [h] at underlined
    rw [underline_placed _ _ _ _ hp]
    rfl
  split
  · rw [LineState.opened_placed hn (by nofun)]
    rfl
  split
  · rw [openItem_placed hn]
    rfl
  · exact tableStep_placed state

theorem openBlocks_placed (hn : 1 ≤ n) (fuel depth : Nat) (state : LineState) :
    openBlocks (n + k) fuel depth (state.placed k above) =
      (openBlocks n fuel depth state).placed k above := by
  induction fuel generalizing depth state with
  | zero => rfl
  | succ fuel ih =>
    cases hc : state.chain with
    | nil =>
      have placed : (state.placed k above).chain = [] := by rw [LineState.placed, hc, List.map_nil]
      simp only [openBlocks, hc, placed]
    | cons block outer =>
      have placed : (state.placed k above).chain =
          block.placed k above :: outer.map (·.placed k above) := by
        rw [LineState.placed, hc, List.map_cons]
      have step := @openStep_placed k n above hn state depth (by simp [hc])
      simp only [openBlocks, hc, placed, OpenBlock.placed_kind, step]
      split
      · rfl
      · cases openStep state n depth with
        | done => rfl
        | opened next => exact ih _ { next with mayBeLazy := false }
        | last next => rfl

/-- The text of a line goes to a block that takes it, or to a new paragraph. -/
theorem addText_cons {outer : List OpenBlock} (hv : block.kind.isVerbatim = false) (line : Nat)
    (cur : Cursor) :
    addText line cur (block :: outer) =
      if cur.isBlank then block :: outer
      else if block.kind.acceptsLines then block.addLine cur.text :: outer
      else
        match openChild line (.paragraph false) (block :: outer) with
        | paragraph :: rest => paragraph.addLine cur.text :: rest
        | [] => [] := by
  obtain ⟨kind, first, lines, children⟩ := block
  cases kind <;> first | rfl | cases hv

theorem addText_placed (hn : 1 ≤ n) (cur : Cursor) :
    addText (n + k) cur (chain.map (·.placed k above)) =
      (addText n cur chain).map (·.placed k above) := by
  cases chain with
  | nil => rfl
  | cons block outer =>
    by_cases hv : block.kind.isVerbatim = false
    · have opened := @openChild_placed k n above (block :: outer) hn (.paragraph false) (by nofun)
      rw [List.map_cons] at opened ⊢
      rw [addText_cons (by rwa [OpenBlock.placed_kind]), addText_cons hv, OpenBlock.placed_kind,
        opened]
      split
      · rfl
      split
      · rw [List.map_cons, OpenBlock.placed_addLine]
      · cases openChild n (.paragraph false) (block :: outer) with
        | nil => rfl
        | cons paragraph rest =>
          simp only [List.map_cons, OpenBlock.placed_addLine]
    · have added := @OpenBlock.placed_addLine k above block cur.content
      have closed := @closeHead_placed k n above (block.addLine cur.content :: outer) hn
      rw [List.map_cons] at closed ⊢
      rw [addText, addText, OpenBlock.placed_kind, added]
      cases hk : block.kind with
      | html kind =>
        dsimp only
        split
        · exact closed
        · rfl
      | fenced mark length indent => rfl
      | indented => rfl
      | _ => simp [hk, OpenKind.isVerbatim] at hv

theorem finishLine_placed (hn : 1 ≤ n) (state : LineState) :
    finishLine (n + k) (state.placed k above) =
      (finishLine n state).map (·.placed k above) := by
  have settled := @LineState.settled_placed k n above state hn
  have pending : (state.placed k above).pending.reverse =
      state.pending.reverse.map (·.placed k above) := by
    rw [LineState.placed, List.map_reverse]
  have cur : (state.placed k above).cur = state.cur := rfl
  have chain : (state.placed k above).chain = state.chain.map (·.placed k above) := rfl
  unfold finishLine
  rw [settled, pending, cur, chain, addText_placed hn, addText_placed hn]
  cases state.pending.reverse with
  | nil => rfl
  | cons innermost others =>
    simp only [List.map_cons, OpenBlock.placed_kind, OpenBlock.placed_addLine]
    split
    · rw [List.map_cons, List.map_append]
    · rfl

/-- What becomes of a line once the open blocks are matched. -/
def settle (line : Nat) (text : List Char) (mayBeLazy : Bool) : Descent → List OpenBlock
  | .fenced inner => closeHead (.onLine line) inner
  | .reached state =>
    finishLine line (openBlocks line (text.length + 1) 0 { state with mayBeLazy })

theorem readLine_eq {document : OpenBlock} {blocks : List OpenBlock}
    (hc : chain.reverse = document :: blocks) (line : Nat) (text : List Char) :
    readLine chain line text =
      settle line text (chain.head?.any (·.kind.isParagraph))
        (descend [document] blocks { rest := text }) := by
  unfold readLine
  rw [hc]
  dsimp only
  cases descend [document] blocks { rest := text } with
  | fenced inner => rfl
  | reached state => cases chain <;> rfl

theorem settle_placed (hn : 1 ≤ n) (text : List Char) (mayBeLazy : Bool) (descent : Descent) :
    settle (n + k) text mayBeLazy (descent.placed k above) =
      (settle n text mayBeLazy descent).map (·.placed k above) := by
  cases descent with
  | fenced inner => exact closeHead_placed hn
  | reached state =>
    rw [settle, ← finishLine_placed hn, ← openBlocks_placed hn]
    rfl

theorem readLine_placed (hn : 1 ≤ n) (text : List Char) :
    readLine (chain.map (·.placed k above)) (n + k) text =
      (readLine chain n text).map (·.placed k above) := by
  cases hc : chain.reverse with
  | nil =>
    rw [List.reverse_eq_nil_iff.1 hc]
    rfl
  | cons document blocks =>
    have placed : (chain.map (·.placed k above)).reverse =
        document.placed k above :: blocks.map (·.placed k above) := by
      rw [← List.map_reverse, hc, List.map_cons]
    have lazy : (chain.map (·.placed k above)).head?.any (·.kind.isParagraph) =
        chain.head?.any (·.kind.isParagraph) := by
      cases chain with
      | nil => rfl
      | cons block outer => simp only [List.map_cons, List.head?_cons, Option.any_some,
          OpenBlock.placed_kind]
    have matched := @descend_placed k above [document] blocks { rest := text }
    rw [List.map_singleton] at matched
    rw [readLine_eq placed, readLine_eq hc, lazy, matched, settle_placed hn]

/-- Lines further down, below blocks that are finished, are read as where they stood alone. -/
theorem readLines_placed (hn : 1 ≤ n) (texts : List (List Char)) :
    readLines (chain.map (·.placed k above)) (n + k) texts =
      (readLines chain n texts).map (·.placed k above) := by
  induction texts generalizing chain n with
  | nil => rfl
  | cons text more ih =>
    rw [readLines, readLines, readLine_placed hn, Nat.add_right_comm, ih (by omega)]

end

end Markdown
end DocModel

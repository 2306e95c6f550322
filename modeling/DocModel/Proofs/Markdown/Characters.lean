import DocModel.Proofs.Markdown.Lines

/-!
# DocModel.Proofs.Markdown.Characters

No character of a code block comes from nowhere: what holds of the characters of all lines, and of
the space, holds of those of the code blocks (`holds_blocks`). One line keeps this
(`holds_readLine`), and so do all of them (`holds_readLines`).
-/

namespace DocModel
namespace Markdown

variable {p : Char → Prop}

def AllChars (p : Char → Prop) (text : List Char) : Prop := ∀ c ∈ text, p c

theorem AllChars.of_suffix {text rest : List Char} (h : AllChars p text) (hs : rest <:+ text) :
    AllChars p rest := fun c hc => h c (hs.mem hc)

/-! ## Cursors -/

def Cursor.Behind (next cur : Cursor) : Prop := next.rest <:+ cur.rest

namespace Cursor

theorem behind_refl (cur : Cursor) : cur.Behind cur := List.suffix_refl _

theorem Behind.trans {first second third : Cursor} (h : first.Behind second)
    (hn : second.Behind third) : first.Behind third := List.IsSuffix.trans h hn

theorem behind_skipColumn (cur : Cursor) : cur.skipColumn.Behind cur := by
  obtain ⟨rest, column, insideTab⟩ := cur
  cases rest with
  | nil => exact List.suffix_refl _
  | cons c rest =>
    rw [skipColumn]
    dsimp only
    split
    · exact List.suffix_refl _
    · exact List.suffix_cons c rest

theorem behind_skipColumns (n : Nat) (cur : Cursor) : (cur.skipColumns n).Behind cur := by
  induction n generalizing cur with
  | zero => exact behind_refl cur
  | succ n ih => exact (ih cur.skipColumn).trans (behind_skipColumn cur)

theorem behind_skipChar (cur : Cursor) : cur.skipChar.Behind cur := by
  obtain ⟨rest, column, insideTab⟩ := cur
  cases rest with
  | nil => exact List.suffix_refl _
  | cons c rest => exact List.suffix_cons c rest

theorem behind_skipChars (n : Nat) (cur : Cursor) : (cur.skipChars n).Behind cur := by
  induction n generalizing cur with
  | zero => exact behind_refl cur
  | succ n ih => exact (ih cur.skipChar).trans (behind_skipChar cur)

theorem behind_skipAll (cur : Cursor) : cur.skipAll.Behind cur := List.nil_suffix

theorem behind_skipIndent (cur : Cursor) : cur.skipIndent.Behind cur := List.dropWhile_suffix _

theorem behind_skipBlanksUpTo (n : Nat) (cur : Cursor) : (skipBlanksUpTo n cur).Behind cur := by
  induction n generalizing cur with
  | zero => exact behind_refl cur
  | succ n ih =>
    rw [skipBlanksUpTo]
    split
    · split
      · exact (ih cur.skipColumn).trans (behind_skipColumn cur)
      · exact behind_refl cur
    · exact behind_refl cur

theorem behind_itemContent (cur : Cursor) (length : Nat) :
    (itemContent cur length).1.Behind cur := by
  have marked : (cur.skipIndent.skipChars length).Behind cur :=
    (behind_skipChars length _).trans (behind_skipIndent cur)
  rw [itemContent]
  split
  · split
    · exact (behind_skipColumn _).trans marked
    · exact marked
  · exact (behind_skipBlanksUpTo 6 _).trans marked

theorem allChars_text {cur : Cursor} (h : AllChars p cur.rest) : AllChars p cur.text :=
  h.of_suffix (List.dropWhile_suffix _)

theorem allChars_content {cur : Cursor} (space : p ' ') (h : AllChars p cur.rest) :
    AllChars p cur.content := by
  rw [content]
  split
  · intro c hc
    rcases List.mem_append.1 hc with hc | hc
    · rw [(List.mem_replicate.1 hc).2]
      exact space
    · exact h c (List.mem_of_mem_drop hc)
  · exact h

end Cursor

/-! ## Blocks -/

/-- A property of all characters of a block, if it is a code block. -/
def Block.Holds (p : Char → Prop) (block : Block) : Prop :=
  ∀ fenced info lines, block.kind = .code fenced info lines → ∀ line ∈ lines, AllChars p line

/-- A property of all characters of an open block, and of the code blocks in it. -/
structure OpenBlock.Holds (p : Char → Prop) (block : OpenBlock) : Prop where
  /-- It holds of its lines. -/
  lines : ∀ line ∈ block.lines, AllChars p line
  children : ∀ child ∈ block.children, child.Holds p

def HoldsAll (p : Char → Prop) (chain : List OpenBlock) : Prop := ∀ block ∈ chain, block.Holds p

section

variable {block : OpenBlock} {chain outer : List OpenBlock}

theorem HoldsAll.head (h : HoldsAll p (block :: outer)) : block.Holds p :=
  h block List.mem_cons_self

theorem HoldsAll.tail (h : HoldsAll p (block :: outer)) : HoldsAll p outer :=
  fun b hb => h b (List.mem_cons_of_mem _ hb)

theorem HoldsAll.cons (h : block.Holds p) (ho : HoldsAll p outer) :
    HoldsAll p (block :: outer) := by
  intro b hb
  rcases List.mem_cons.1 hb with rfl | hb
  · exact h
  · exact ho b hb

theorem HoldsAll.append {first second : List OpenBlock} (hf : HoldsAll p first)
    (hs : HoldsAll p second) : HoldsAll p (first ++ second) := by
  intro b hb
  rcases List.mem_append.1 hb with hb | hb
  · exact hf b hb
  · exact hs b hb

theorem HoldsAll.reverse (h : HoldsAll p chain) : HoldsAll p chain.reverse :=
  fun b hb => h b (List.mem_reverse.1 hb)

theorem holds_new (kind : OpenKind) (line : Nat) :
    OpenBlock.Holds p { kind, firstLine := line } :=
  ⟨fun _ hl => (List.not_mem_nil hl).elim, fun _ hc => (List.not_mem_nil hc).elim⟩

theorem OpenBlock.Holds.addLine (h : block.Holds p) {line : List Char} (hl : AllChars p line) :
    (block.addLine line).Holds p := by
  refine ⟨fun other ho => ?_, h.children⟩
  rcases List.mem_cons.1 ho with rfl | ho
  · exact hl
  · exact h.lines other ho

theorem OpenBlock.Holds.finish (h : block.Holds p) {last : Nat} {node : Block}
    (hn : block.finish last = some node) : node.Holds p := by
  intro fenced info lines code line hl
  obtain ⟨kind, first, own, children⟩ := block
  cases kind with
  | document => cases hn
  | paragraph noTable =>
    simp only [OpenBlock.finish] at hn
    split at hn
    · cases hn
    · cases hn
      cases code
  | fenced mark length indent =>
    simp only [OpenBlock.finish] at hn
    cases ho : own.reverse with
    | nil =>
      rw [ho] at hn
      cases hn
      cases code
      cases hl
    | cons head rest =>
      rw [ho] at hn
      cases hn
      cases code
      refine h.lines line (List.mem_reverse.1 ?_)
      rw [ho]
      exact List.mem_cons_of_mem _ hl
  | indented =>
    cases hn
    cases code
    exact h.lines line ((List.dropWhile_suffix _).mem (List.mem_reverse.1 hl))
  | _ =>
    cases hn
    cases code

theorem holds_closeHead (closing : Closing) (h : HoldsAll p chain) :
    HoldsAll p (closeHead closing chain) := by
  match chain, h with
  | [], h => exact h
  | [_], h => exact h
  | block :: outer :: rest, h =>
    rw [closeHead]
    refine HoldsAll.cons ⟨h.tail.head.lines, fun child hc => ?_⟩ h.tail.tail
    rcases List.mem_append.1 hc with hc | hc
    · exact h.head.finish (Option.mem_toList.1 hc)
    · exact h.tail.head.children child hc

theorem holds_closeHeads (closing : Closing) (count : Nat) (h : HoldsAll p chain) :
    HoldsAll p (closeHeads closing count chain) :=
  closeHeads_preserves (fun _ held => holds_closeHead closing held) count h

theorem holds_closeUnder (closing : Closing) (kind : OpenKind) (count : Nat)
    (h : HoldsAll p chain) : HoldsAll p (closeUnder closing kind count chain) :=
  closeUnder_preserves (fun _ held => holds_closeHead closing held) kind count h

theorem holds_openChild (line : Nat) (kind : OpenKind) (h : HoldsAll p chain) :
    HoldsAll p (openChild line kind chain) :=
  (holds_closeUnder _ kind _ h).cons (holds_new kind line)

end

/-! ## One line -/

/-- A property of all characters of a state, and of the rest of its line. -/
structure LineState.Holds (p : Char → Prop) (state : LineState) : Prop where
  /-- It holds of the open blocks. -/
  chain : HoldsAll p state.chain
  /-- It holds of those that are left behind. -/
  pending : HoldsAll p state.pending
  /-- It holds of the rest of the line. -/
  rest : AllChars p state.cur.rest

section

variable {state : LineState} {block : OpenBlock} {outer : List OpenBlock}

theorem holds_settled (h : state.Holds p) (line : Nat) : HoldsAll p (state.settled line) :=
  holds_closeHeads _ _ (h.pending.reverse.append h.chain)

theorem holds_opened (h : state.Holds p) (line : Nat) (kind : OpenKind) {cur : Cursor}
    (behind : cur.Behind state.cur) : (state.opened line kind cur).Holds p :=
  ⟨holds_openChild line kind (holds_settled h line), fun _ hb => (List.not_mem_nil hb).elim,
    h.rest.of_suffix behind⟩

theorem holds_openItem (h : state.Holds p) (line : Nat) (marker : ListMarker) (length : Nat) :
    (openItem state line marker length).Holds p := by
  have behind := Cursor.behind_itemContent state.cur length
  rw [openItem_eq]
  split
  · exact holds_opened h line _ behind
  · exact holds_opened (holds_opened h line _ behind) line _ (Cursor.behind_refl _)

theorem holds_underline (h : state.Holds p) (hc : HoldsAll p (block :: outer)) (level : Nat) :
    (underline state block outer level).Holds p := by
  rw [underline]
  split
  · exact ⟨hc.tail.cons ⟨fun _ hl => (List.not_mem_nil hl).elim, hc.head.children⟩, h.pending,
      h.rest⟩
  · exact ⟨hc.tail.cons ⟨hc.head.lines, hc.head.children⟩, h.pending,
      h.rest.of_suffix (Cursor.behind_skipAll _)⟩

theorem holds_preface (first before : Nat) : ∀ node ∈ preface first before, node.Holds p := by
  intro node hm
  rw [preface] at hm
  split at hm
  · cases hm
  · rw [List.mem_singleton.1 hm]
    intro fenced info lines code
    cases code

theorem holds_openTable (h : state.Holds p) (paragraph : OpenBlock) (ho : HoldsAll p outer) :
    (openTable state paragraph outer).Holds p := by
  have rest := h.rest.of_suffix (Cursor.behind_skipAll state.cur)
  cases outer with
  | nil => exact ⟨ho.cons (holds_new _ _), h.pending, rest⟩
  | cons block more =>
    rw [openTable_cons]
    refine ⟨HoldsAll.cons (holds_new _ _) (ho.tail.cons ⟨ho.head.lines, fun child hc => ?_⟩),
      h.pending, rest⟩
    rcases List.mem_append.1 hc with hc | hc
    · exact holds_preface _ _ child hc
    · exact ho.head.children child hc

/-- A property of all characters of the state that a marker leads to. -/
def Step.Holds (p : Char → Prop) : Step → Prop
  | .done => True
  | .opened state => state.Holds p
  | .last state => state.Holds p

theorem holds_tableStep (h : state.Holds p) : (tableStep state).Holds p := by
  cases hc : state.chain with
  | nil =>
    obtain ⟨chain, pending, cur, mayBeLazy⟩ := state
    cases hc
    trivial
  | cons block outer =>
    have chain := h.chain
    rw [hc] at chain
    by_cases head : block.kind = .paragraph false
    · rw [tableStep_paragraph hc head]
      split
      · split
        · exact holds_openTable h block chain.tail
        · exact ⟨chain.tail.cons ⟨chain.head.lines, chain.head.children⟩, h.pending, h.rest⟩
      · trivial
    · obtain ⟨chain, pending, cur, mayBeLazy⟩ := state
      obtain ⟨kind, first, lines, children⟩ := block
      cases hc
      cases kind with
      | paragraph noTable =>
        cases noTable with
        | true => trivial
        | false => exact absurd rfl head
      | table =>
        simp only [tableStep]
        split
        · trivial
        · exact ⟨h.chain, h.pending, h.rest.of_suffix (Cursor.behind_skipAll cur)⟩
      | _ => trivial

theorem holds_openStep (h : state.Holds p) (hc : state.chain = block :: outer) (line depth : Nat) :
    (openStep state line depth).Holds p := by
  have skipIndent := Cursor.behind_skipIndent state.cur
  rw [openStep_cons hc]
  split
  · split
    · exact holds_opened h line _ (Cursor.behind_skipColumns 4 _)
    · trivial
  split
  · exact holds_opened h line _
      ((Cursor.behind_skipBlanksUpTo 1 _).trans ((Cursor.behind_skipChars 1 _).trans skipIndent))
  split
  · exact holds_opened h line _ (Cursor.behind_skipAll _)
  split
  · exact holds_opened h line _ ((Cursor.behind_skipChars _ _).trans skipIndent)
  split
  · exact holds_opened h line _ (Cursor.behind_refl _)
  split
  · exact holds_underline h (hc ▸ h.chain) _
  split
  · exact holds_opened h line _ (Cursor.behind_skipAll _)
  split
  · exact holds_openItem h line _ _
  · exact holds_tableStep h

theorem holds_openBlocks (fuel depth line : Nat) (h : state.Holds p) :
    (openBlocks line fuel depth state).Holds p := by
  induction fuel generalizing depth state with
  | zero => exact h
  | succ fuel ih =>
    cases hc : state.chain with
    | nil =>
      simp only [openBlocks, hc]
      exact h
    | cons block outer =>
      simp only [openBlocks, hc]
      split
      · exact h
      · have step := holds_openStep h hc line depth
        cases hs : openStep state line depth with
        | done => exact h
        | opened next =>
          rw [hs] at step
          exact ih _ ⟨step.chain, step.pending, step.rest⟩
        | last next =>
          rw [hs] at step
          exact step

theorem holds_addText (space : p ' ') {cur : Cursor} (hr : AllChars p cur.rest) (line : Nat)
    {chain : List OpenBlock} (h : HoldsAll p chain) : HoldsAll p (addText line cur chain) := by
  cases chain with
  | nil => exact h
  | cons block outer =>
    have content := Cursor.allChars_content space hr
    have text := Cursor.allChars_text hr
    by_cases hv : block.kind.isVerbatim = false
    · rw [addText_cons hv]
      split
      · exact h
      split
      · exact h.tail.cons (h.head.addLine text)
      · have opened := holds_openChild line (.paragraph false) h
        cases ho : openChild line (.paragraph false) (block :: outer) with
        | nil => exact fun _ hb => (List.not_mem_nil hb).elim
        | cons paragraph rest =>
          rw [ho] at opened
          exact opened.tail.cons (opened.head.addLine text)
    · have added := h.tail.cons (h.head.addLine content)
      rw [addText]
      cases hk : block.kind with
      | html kind =>
        dsimp only
        split
        · exact holds_closeHead _ added
        · exact added
      | fenced mark length indent => exact added
      | indented => exact added
      | _ => simp [hk, OpenKind.isVerbatim] at hv

theorem holds_finishLine (space : p ' ') (h : state.Holds p) (line : Nat) :
    HoldsAll p (finishLine line state) := by
  have pending := h.pending.reverse
  unfold finishLine
  cases hp : state.pending.reverse with
  | nil => exact holds_addText space h.rest line h.chain
  | cons innermost others =>
    rw [hp] at pending
    dsimp only
    split
    · exact HoldsAll.cons (pending.head.addLine (Cursor.allChars_content space h.rest))
        (pending.tail.append h.chain)
    · exact holds_addText space h.rest line (holds_settled h line)

end

/-- A property of all characters of what open blocks make of a line. -/
def Descent.Holds (p : Char → Prop) : Descent → Prop
  | .reached state => state.Holds p
  | .fenced chain => HoldsAll p chain

theorem behind_continues {block : OpenBlock} {hasChild : Bool} {cur next : Cursor}
    (h : block.continues hasChild cur = .within next) : next.Behind cur := by
  obtain ⟨kind, first, lines, children⟩ := block
  have same : Continuation.within cur = .within next → next.Behind cur := by
    intro e
    cases e
    exact Cursor.behind_refl cur
  cases kind <;> simp only [OpenBlock.continues] at h
  case document => exact same h
  case list => exact same h
  case rule => exact same h
  case heading => cases h
  case quote =>
    split at h
    · cases h
      exact (Cursor.behind_skipBlanksUpTo 1 _).trans (Cursor.behind_skipColumns _ cur)
    · cases h
  case item =>
    split at h
    · cases h
      exact Cursor.behind_skipColumns _ cur
    split at h
    · cases h
      exact Cursor.behind_skipIndent cur
    · cases h
  case paragraph =>
    split at h
    · cases h
    · exact same h
  case fenced =>
    split at h
    · cases h
    · cases h
      exact Cursor.behind_skipBlanksUpTo _ cur
  case indented =>
    split at h
    · cases h
      exact Cursor.behind_skipColumns 4 cur
    split at h
    · cases h
      exact Cursor.behind_skipIndent cur
    · cases h
  case html =>
    split at h
    · cases h
    · exact same h
  case table =>
    split at h
    · exact same h
    · cases h

theorem holds_descend {matched inner : List OpenBlock} {cur : Cursor} (hm : HoldsAll p matched)
    (hi : HoldsAll p inner) (hr : AllChars p cur.rest) : (descend matched inner cur).Holds p := by
  induction inner generalizing matched cur with
  | nil => exact ⟨hm, hi, hr⟩
  | cons block more ih =>
    rw [descend]
    cases hc : block.continues (!block.children.isEmpty || !more.isEmpty) cur with
    | within next =>
      exact ih (hm.cons hi.head) hi.tail (hr.of_suffix (behind_continues hc))
    | outside => exact ⟨hm, hi, hr⟩
    | closing => exact hm.cons hi.head

/-- One more line keeps a property of all characters that its own have. -/
theorem holds_readLine (space : p ' ') {chain : List OpenBlock} (h : HoldsAll p chain) (line : Nat)
    {text : List Char} (ht : AllChars p text) : HoldsAll p (readLine chain line text) := by
  have outermost := h.reverse
  cases hc : chain.reverse with
  | nil =>
    rw [List.reverse_eq_nil_iff.1 hc]
    exact fun _ hb => (List.not_mem_nil hb).elim
  | cons document blocks =>
    rw [hc] at outermost
    rw [readLine_eq hc]
    have none : HoldsAll p [] := fun _ hb => (List.not_mem_nil hb).elim
    have reached := @holds_descend p [document] blocks { rest := text } (none.cons outermost.head)
      outermost.tail ht
    cases hd : descend [document] blocks { rest := text } with
    | fenced inner =>
      rw [hd] at reached
      exact holds_closeHead _ reached
    | reached state =>
      rw [hd] at reached
      have start : LineState.Holds p
          { state with mayBeLazy := chain.head?.any (·.kind.isParagraph) } :=
        ⟨reached.chain, reached.pending, reached.rest⟩
      exact holds_finishLine space (holds_openBlocks _ 0 line start) line

theorem holds_readLines (space : p ' ') {chain : List OpenBlock} (h : HoldsAll p chain) (line : Nat)
    {texts : List (List Char)} (ht : ∀ text ∈ texts, AllChars p text) :
    HoldsAll p (readLines chain line texts) := by
  induction texts generalizing chain line with
  | nil => exact h
  | cons text more ih =>
    exact ih (holds_readLine space h line (ht text List.mem_cons_self)) (line + 1)
      fun other ho => ht other (List.mem_cons_of_mem _ ho)

/-- The characters of the code blocks of a text have every property that those of its lines and the
space have. -/
theorem holds_blocks (space : p ' ') {text : List Char}
    (h : ∀ line ∈ bodyLines (cleaned text), AllChars p line) :
    ∀ block ∈ blocks text, block.Holds p := by
  have document : HoldsAll p [{ kind := .document, firstLine := 1 }] :=
    HoldsAll.cons (holds_new _ _) fun _ hb => (List.not_mem_nil hb).elim
  have closed := holds_closeHeads (.atEnd (bodyLines (cleaned text)).length)
    ((readLines [{ kind := .document, firstLine := 1 }] 1 (bodyLines (cleaned text))).length - 1)
    (holds_readLines space document 1 h)
  intro block hm
  unfold blocks at hm
  dsimp only at hm
  split at hm
  · next whole rest heq =>
    rw [heq] at closed
    exact closed.head.children block (List.mem_reverse.1 hm)
  · cases hm

end Markdown
end DocModel

import DocModel.Proofs.Markdown.OriginLines

/-!
# DocModel.Proofs.Markdown.Order

The blocks of a text begin in the order of its lines: a block not before the one around it, and all
that is in one block before the next block beside it.

* `Block.InOrder` says this of a finished block, `Ordered` of a chain of open blocks;
* closing a block keeps it (`Ordered.closeHead`), and so does opening one on the line that is read
  (`Ordered.openChild`), as long as nothing that began on this line is closed for it;
* `Phase` is how far a line has come: nothing opened yet, a block opened that has room for others,
  or one that takes the rest of the line;
* `inOrder_blocks` is the result for a whole text.
-/

namespace DocModel
namespace Markdown

/-! ## Finished blocks -/

/-- A block, or one inside it, begins on a line. -/
inductive Block.Begins : Block → Nat → Prop where
  | own (kind : BlockKind) (first last : Nat) (children : List Block) :
    Begins (.node kind first last children) first
  | inside {kind : BlockKind} {first last n : Nat} {children : List Block} {child : Block}
    (mem : child ∈ children) (inner : Begins child n) :
    Begins (.node kind first last children) n

/-- All that begins in one block does so before the other one. -/
def Block.Before (block other : Block) : Prop := ∀ n, block.Begins n → n < other.firstLine

/-- The blocks inside a block begin in order. -/
inductive Block.InOrder : Block → Prop where
  | node {kind : BlockKind} {first last : Nat} {children : List Block}
    (behind : ∀ child ∈ children, first ≤ child.firstLine)
    (apart : children.Pairwise Block.Before)
    (inner : ∀ child ∈ children, InOrder child) : InOrder (.node kind first last children)

theorem Block.InOrder.le {block : Block} (h : block.InOrder) {n : Nat} (hn : block.Begins n) :
    block.firstLine ≤ n := by
  induction hn with
  | own kind first last children => exact Nat.le_refl first
  | inside mem _ ih =>
    cases h with
    | node behind _ inner => exact Nat.le_trans (behind _ mem) (ih (inner _ mem))

/-! ## Open blocks -/

/-- The finished blocks inside an open one, the latest first, are in order. -/
structure OpenBlock.InOrder (block : OpenBlock) : Prop where
  behind : ∀ child ∈ block.children, block.firstLine ≤ child.firstLine
  apart : block.children.Pairwise fun later earlier => earlier.Before later
  inner : ∀ child ∈ block.children, child.InOrder

/-- An open block begins behind all that is finished in the block around it. -/
structure OpenBlock.Follows (around block : OpenBlock) : Prop where
  own : around.firstLine ≤ block.firstLine
  children : ∀ child ∈ around.children, ∀ n, child.Begins n → n < block.firstLine

def InOrderAll : List OpenBlock → Prop
  | [] => True
  | block :: outer =>
    block.InOrder ∧ (∀ around ∈ outer.head?, around.Follows block) ∧ InOrderAll outer

/-- An open block and what is finished inside it begin before a line, but the document may begin on
it. -/
structure OpenBlock.Begun (bound : Nat) (block : OpenBlock) : Prop where
  reached : block.firstLine ≤ bound
  own : block.kind ≠ .document → block.firstLine < bound
  children : ∀ child ∈ block.children, ∀ n, child.Begins n → n < bound

/-- A chain of open blocks in which everything begins in order and before a line. -/
structure Ordered (bound : Nat) (chain : List OpenBlock) : Prop where
  inOrder : InOrderAll chain
  begun : ∀ block ∈ chain, block.Begun bound

section

variable {bound line : Nat} {chain outer : List OpenBlock} {block around : OpenBlock}
  {kind : OpenKind}

theorem Ordered.head (h : Ordered bound (block :: outer)) : block.InOrder ∧ block.Begun bound :=
  ⟨h.inOrder.1, h.begun block List.mem_cons_self⟩

theorem Ordered.tail (h : Ordered bound (block :: outer)) : Ordered bound outer :=
  ⟨h.inOrder.2.2, fun other ho => h.begun other (List.mem_cons_of_mem _ ho)⟩

theorem Ordered.cons (h : Ordered bound outer) (own : block.InOrder) (begun : block.Begun bound)
    (follows : ∀ around ∈ outer.head?, around.Follows block) : Ordered bound (block :: outer) := by
  refine ⟨⟨own, follows, h.inOrder⟩, fun other ho => ?_⟩
  rcases List.mem_cons.1 ho with rfl | ho
  · exact begun
  · exact h.begun other ho

theorem Ordered.of_append {first second : List OpenBlock} (h : Ordered bound (first ++ second)) :
    Ordered bound second := by
  induction first with
  | nil => exact h
  | cons block rest ih => exact ih h.tail

theorem OpenBlock.Begun.succ (h : block.Begun bound) : block.Begun (bound + 1) :=
  ⟨Nat.le_succ_of_le h.reached, fun other => Nat.lt_succ_of_lt (h.own other),
    fun child hc n hn => Nat.lt_succ_of_lt (h.children child hc n hn)⟩

theorem Ordered.succ (h : Ordered bound chain) : Ordered (bound + 1) chain :=
  ⟨h.inOrder, fun block hb => (h.begun block hb).succ⟩

/-- What an open block is and which lines of text it has plays no role. -/
theorem Ordered.become (h : Ordered bound (block :: outer)) (other : block.kind ≠ .document)
    (kind : OpenKind) (lines : List (List Char)) :
    Ordered bound ({ block with kind, lines } :: outer) := by
  obtain ⟨own, begun⟩ := h.head
  refine h.tail.cons ⟨own.behind, own.apart, own.inner⟩
    ⟨begun.reached, fun _ => begun.own other, begun.children⟩ fun around ha => ?_
  obtain ⟨first, children⟩ := h.inOrder.2.1 around ha
  exact ⟨first, children⟩

theorem Ordered.addLine (h : Ordered bound (block :: outer)) (text : List Char) :
    Ordered bound (block.addLine text :: outer) := by
  obtain ⟨own, begun⟩ := h.head
  refine h.tail.cons ⟨own.behind, own.apart, own.inner⟩
    ⟨begun.reached, begun.own, begun.children⟩ fun around ha => ?_
  obtain ⟨first, children⟩ := h.inOrder.2.1 around ha
  exact ⟨first, children⟩

/-! ## Closing blocks -/

/-- A finished block begins where it was opened and keeps what is inside it. -/
theorem finish_eq {last : Nat} {node : Block} (h : block.finish last = some node) :
    block.kind ≠ .document ∧
      ∃ kind, node = .node kind block.firstLine last block.children.reverse := by
  obtain ⟨kind, first, lines, children⟩ := block
  cases kind with
  | document => cases h
  | paragraph noTable => exact ⟨nofun, _, OpenBlock.finish_paragraph h⟩
  | fenced mark length indent =>
    obtain ⟨info, own⟩ := OpenBlock.finish_fenced h
    exact ⟨nofun, _, own⟩
  | _ =>
    cases h
    exact ⟨nofun, _, rfl⟩

/-- What is finished is in order, at its place and before the line. -/
theorem OpenBlock.InOrder.finish (h : block.InOrder) (begun : block.Begun bound) {last : Nat}
    {node : Block} (hn : block.finish last = some node) :
    node.InOrder ∧ node.firstLine = block.firstLine ∧ ∀ n, node.Begins n → n < bound := by
  obtain ⟨other, kind, rfl⟩ := finish_eq hn
  refine ⟨.node ?_ ?_ ?_, rfl, fun n hb => ?_⟩
  · exact fun child hc => h.behind child (List.mem_reverse.1 hc)
  · exact List.pairwise_reverse.2 h.apart
  · exact fun child hc => h.inner child (List.mem_reverse.1 hc)
  · cases hb with
    | own => exact begun.own other
    | inside mem inner => exact begun.children _ (List.mem_reverse.1 mem) n inner

theorem OpenBlock.InOrder.addChildren (h : block.InOrder) {more : List Block}
    (inner : ∀ child ∈ more, child.InOrder ∧ block.firstLine ≤ child.firstLine)
    (apart : more.Pairwise fun later earlier => earlier.Before later)
    (later : ∀ child ∈ more, ∀ earlier ∈ block.children, earlier.Before child) :
    OpenBlock.InOrder { block with children := more ++ block.children } := by
  refine ⟨fun child hc => ?_, List.pairwise_append.2 ⟨apart, h.apart, later⟩, fun child hc => ?_⟩
  · rcases List.mem_append.1 hc with hc | hc
    · exact (inner child hc).2
    · exact h.behind child hc
  · rcases List.mem_append.1 hc with hc | hc
    · exact (inner child hc).1
    · exact h.inner child hc

theorem OpenBlock.Begun.addChildren (h : block.Begun bound) {more : List Block}
    (hm : ∀ child ∈ more, ∀ n, child.Begins n → n < bound) :
    OpenBlock.Begun bound { block with children := more ++ block.children } := by
  refine ⟨h.reached, h.own, fun child hc => ?_⟩
  rcases List.mem_append.1 hc with hc | hc
  · exact hm child hc
  · exact h.children child hc

/-- The innermost block but one of an ordered chain with more finished blocks. -/
theorem Ordered.addChildren (h : Ordered bound (block :: outer)) {more : List Block}
    (own : OpenBlock.InOrder { block with children := more ++ block.children })
    (hm : ∀ child ∈ more, ∀ n, child.Begins n → n < bound) :
    Ordered bound ({ block with children := more ++ block.children } :: outer) := by
  refine h.tail.cons own (h.head.2.addChildren hm) fun around ha => ?_
  obtain ⟨first, children⟩ := h.inOrder.2.1 around ha
  exact ⟨first, children⟩

theorem Ordered.closeHead (h : Ordered bound chain) (closing : Closing) :
    Ordered bound (closeHead closing chain) := by
  match chain, h with
  | [], h => exact h
  | [_], h => exact h
  | block :: around :: rest, h =>
    obtain ⟨own, begun⟩ := h.head
    have follows := h.inOrder.2.1 around rfl
    rw [Markdown.closeHead]
    -- it becomes the latest child of the block around it, all of whose children began before it
    have finished := fun node (hn : node ∈ (block.finish (closing.lastLine block.kind)).toList) =>
      own.finish begun (Option.mem_toList.1 hn)
    refine h.tail.addChildren (h.tail.head.1.addChildren (fun node hn => ?_) ?_ ?_) ?_
    · obtain ⟨inOrder, place, -⟩ := finished node hn
      exact ⟨inOrder, place ▸ follows.own⟩
    · cases block.finish (closing.lastLine block.kind) <;> simp
    · intro node hn earlier he n hb
      rw [(finished node hn).2.1]
      exact follows.children earlier he n hb
    · exact fun node hn => (finished node hn).2.2

theorem Ordered.closeHeads (h : Ordered bound chain) (closing : Closing) (count : Nat) :
    Ordered bound (closeHeads closing count chain) :=
  closeHeads_preserves (fun _ ordered => ordered.closeHead closing) count h

theorem Ordered.closeUnder (h : Ordered bound chain) (closing : Closing) (kind : OpenKind)
    (count : Nat) : Ordered bound (closeUnder closing kind count chain) :=
  closeUnder_preserves (fun _ ordered => ordered.closeHead closing) kind count h

/-! ## Opening blocks -/

theorem Ordered.new (h : Ordered (line + 1) outer)
    (room : ∀ around ∈ outer.head?, around.firstLine ≤ line ∧
      ∀ child ∈ around.children, ∀ n, child.Begins n → n < line) (kind : OpenKind) :
    Ordered (line + 1) ({ kind, firstLine := line } :: outer) := by
  refine h.cons ⟨nofun, .nil, nofun⟩
    ⟨Nat.le_succ line, fun _ => Nat.lt_succ_self line, nofun⟩ fun around ha => ?_
  exact ⟨(room around ha).1, (room around ha).2⟩

/-- Where everything began before the line, any block may be closed for the new one. -/
theorem Ordered.openChild (h : Ordered line chain) (kind : OpenKind) :
    Ordered (line + 1) (openChild line kind chain) := by
  have closed := h.closeUnder (.onLine line) kind chain.length
  refine closed.succ.new (fun around ha => ?_) kind
  have begun := closed.begun around (List.mem_of_mem_head? ha)
  exact ⟨begun.reached, begun.children⟩

/-- Into a block that was opened on the line and is still empty. -/
theorem Ordered.openInner (h : Ordered (line + 1) (block :: outer)) (empty : block.children = [])
    (first : block.firstLine ≤ line) (kind : OpenKind) :
    Ordered (line + 1) ({ kind, firstLine := line } :: block :: outer) := by
  refine h.new (fun around ha => ?_) kind
  cases ha
  rw [empty]
  exact ⟨first, nofun⟩

end

/-! ## Markers -/

/-- A block that was opened on this line and may hold others. -/
structure OpenBlock.Fresh (line : Nat) (block : OpenBlock) : Prop where
  empty : block.children = []
  first : block.firstLine ≤ line
  room : ∀ kind : OpenKind, kind.isItem = false → block.kind.canContain kind = true

/-- The markers of a line are read: what is left goes to the innermost block, if anything is. -/
structure LineState.Settled (line : Nat) (state : LineState) : Prop where
  pending : state.pending = []
  ordered : Ordered (line + 1) state.chain
  takes : ∀ block ∈ state.chain.head?,
    state.cur.text = [] ∨ block.kind.isVerbatim = true ∨ block.kind.acceptsLines = true

/-- How far a line has come before its next marker. -/
inductive LineState.Phase (line : Nat) (state : LineState) : Prop where
  /-- It has opened no block. -/
  | before (ordered : Ordered line (state.pending.reverse ++ state.chain))
  /-- It has opened a block that may hold others. -/
  | inside (pending : state.pending = []) (ordered : Ordered (line + 1) state.chain)
    (fresh : ∀ block ∈ state.chain.head?, block.Fresh line)
  /-- It has opened a block that takes the rest. -/
  | behind (settled : state.Settled line)
    (rest : ∀ block ∈ state.chain.head?, state.cur.text = [] ∨ block.kind.isVerbatim = true)

/-- What the next marker of a line leaves. -/
def Step.Ordered (line : Nat) : Step → Prop
  | .done => True
  | .opened next => next.Phase line
  | .last next => next.Settled line

section

variable {lines : List (List Char)} {line : Nat} {text : List Char} {state : LineState}
  {chain outer : List OpenBlock} {block : OpenBlock} {kind : OpenKind}

/-- The lines of a paragraph before the head of a table end before the table. -/
theorem inOrder_preface {first before : Nat} :
    ∀ child ∈ preface first before, child.InOrder ∧ child.firstLine = first ∧
      ∀ n, child.Begins n → n = first ∧ n < first + before := by
  intro child hm
  rw [preface] at hm
  split at hm
  · cases hm
  · next some =>
    obtain rfl := List.mem_singleton.1 hm
    refine ⟨.node (List.forall_mem_nil _) .nil (List.forall_mem_nil _), rfl, fun n hn => ?_⟩
    cases hn with
    | own =>
      have positive : before ≠ 0 := by simpa using some
      omega
    | inside mem => cases mem

theorem pairwise_preface {first before : Nat} :
    (preface first before).Pairwise fun later earlier => earlier.Before later := by
  rw [preface]
  split
  · exact .nil
  · exact List.pairwise_singleton _ _

namespace LineState

theorem settled_of_pending (h : state.pending = []) (line : Nat) :
    state.settled line = state.chain := by
  rw [settled, h]
  rfl

/-- A new block stands inside a fresh one, or takes the place of what is closed for it. -/
theorem Phase.opened (h : state.Phase line) (hc : state.chain = block :: outer)
    (more : state.cur.text ≠ []) (plain : block.kind.isVerbatim = false)
    (room : block.Fresh line → block.kind.canContain kind = true) (cur : Cursor) :
    Markdown.Ordered (line + 1) (state.opened line kind cur).chain := by
  cases h with
  | before ordered =>
    have settled := ordered.closeHeads (.onLine line) state.pending.length
    exact settled.openChild kind
  | inside pending ordered fresh =>
    have own := fresh block (by rw [hc]; rfl)
    rw [LineState.opened, settled_of_pending pending, hc, Markdown.openChild, List.length_cons,
      closeUnder, if_pos (room own)]
    rw [hc] at ordered
    exact ordered.openInner own.empty own.first kind
  | behind _ rest =>
    rcases rest block (by rw [hc]; rfl) with none | verbatim
    · exact absurd none more
    · rw [plain] at verbatim
      cases verbatim

theorem Phase.opened_block (h : state.Phase line) (hc : state.chain = block :: outer)
    (more : state.cur.text ≠ []) (plain : block.kind.isVerbatim = false)
    (item : kind.isItem = false) (cur : Cursor) :
    Markdown.Ordered (line + 1) (state.opened line kind cur).chain :=
  h.opened hc more plain (fun fresh => fresh.room kind item) cur

theorem settled_opened {cur : Cursor}
    (ordered : Markdown.Ordered (line + 1) (state.opened line kind cur).chain)
    (takes : kind.isVerbatim = true ∨ kind.acceptsLines = true) :
    (state.opened line kind cur).Settled line := by
  refine ⟨rfl, ordered, fun block hb => .inr ?_⟩
  cases hb
  exact takes

/-- An item goes into the list that is open or into a new one. -/
theorem Phase.openItem (h : state.Phase line) (hc : state.chain = block :: outer)
    (more : state.cur.text ≠ []) (plain : block.kind.isVerbatim = false) (marker : ListMarker)
    (length : Nat) : (Markdown.openItem state line marker length).Phase line := by
  rw [openItem_eq]
  generalize itemContent state.cur length = content
  have fresh : OpenBlock.Fresh line { kind := .item content.2, firstLine := line } := by
    refine ⟨rfl, Nat.le_refl line, fun kind item => ?_⟩
    cases kind <;> first | rfl | cases item
  split
  · next own =>
    refine .inside rfl (h.opened hc more plain (fun _ => ?_) content.1) fun block hb => ?_
    · rw [hc, List.head?_cons, Option.any_some] at own
      obtain ⟨kind, first, texts, children⟩ := block
      cases kind <;> first | rfl | cases own
    · cases hb
      exact fresh
  · have list := @Phase.opened_block _ _ _ _ (.list marker) h hc more plain rfl content.1
    have chain : ((state.opened line (.list marker) content.1).opened line (.item content.2)
        content.1).chain = { kind := .item content.2, firstLine := line } ::
          (state.opened line (.list marker) content.1).chain := openChild_list rfl content.2
    refine .inside rfl ?_ fun block hb => ?_
    · rw [chain]
      exact list.openInner rfl (Nat.le_refl line) (.item content.2)
    · rw [chain] at hb
      cases hb
      exact fresh

/-- A line whose innermost block holds no other has opened none. -/
theorem Phase.before_of_full (h : state.Phase line) (hc : state.chain = block :: outer)
    (more : state.cur.text ≠ []) (plain : block.kind.isVerbatim = false)
    (full : ∀ kind, block.kind.canContain kind = false) :
    Markdown.Ordered line (state.pending.reverse ++ state.chain) := by
  cases h with
  | before ordered => exact ordered
  | inside _ _ fresh =>
    have room := (fresh block (by rw [hc]; rfl)).room .quote rfl
    rw [full] at room
    cases room
  | behind _ rest =>
    rcases rest block (by rw [hc]; rfl) with none | verbatim
    · exact absurd none more
    · rw [plain] at verbatim
      cases verbatim

theorem Phase.paragraph (h : state.Phase line) (opened : state.Open lines line)
    (hc : state.chain = block :: outer) (more : state.cur.text ≠ [])
    (hp : block.kind.isParagraph = true) : Markdown.Ordered line (block :: outer) := by
  have pending := opened.pending_paragraph hc hp
  have ordered := h.before_of_full hc more ?_ fun kind => ?_
  · rwa [pending, hc] at ordered
  · obtain ⟨own, first, texts, children⟩ := block
    cases own <;> first | rfl | cases hp
  · obtain ⟨own, first, texts, children⟩ := block
    cases own <;> first | rfl | cases hp

theorem Phase.become (h : state.Phase line) (opened : state.Open lines line)
    (hc : state.chain = block :: outer) (more : state.cur.text ≠ [])
    (hp : block.kind.isParagraph = true) (texts : List (List Char))
    (takes : kind.acceptsLines = true) (cur : Cursor) :
    LineState.Settled line
      { state with chain := { block with kind, lines := texts } :: outer, cur } := by
  refine ⟨opened.pending_paragraph hc hp, ?_, fun head hh => ?_⟩
  · refine ((h.paragraph opened hc more hp).become (fun document => ?_) kind texts).succ
    rw [document] at hp
    cases hp
  · cases hh
    exact .inr (.inr takes)

theorem Phase.underline (h : state.Phase line) (opened : state.Open lines line)
    (hc : state.chain = block :: outer) (more : state.cur.text ≠ [])
    (hp : block.kind.isParagraph = true) (level : Nat) :
    (Markdown.underline state block outer level).Settled line := by
  obtain ⟨kind, first, texts, children⟩ := block
  cases kind with
  | paragraph noTable =>
    rw [Markdown.underline]
    split
    · exact h.become opened hc more hp [] rfl state.cur
    · exact h.become opened hc more hp texts rfl state.cur.skipAll
  | _ => cases hp

theorem Phase.openTable (h : state.Phase line) (opened : state.Open lines line)
    (hc : state.chain = block :: outer) (more : state.cur.text ≠ [])
    (hp : block.kind.isParagraph = true) :
    (Markdown.openTable state block outer).Phase line := by
  have ordered := h.paragraph opened hc more hp
  have own := (opened.head hc).1
  have taken := own.paragraph hp
  obtain ⟨around, rest, rfl⟩ : ∃ around rest, outer = around :: rest := by
    refine List.exists_cons_of_ne_nil fun none => ?_
    rw [own.root none] at hp
    cases hp
  have follows := ordered.inOrder.2.1 around rfl
  have reached := ordered.head.2.own fun document => by rw [document] at hp; cases hp
  rw [openTable_cons]
  generalize hb : block.lines.length - 1 = before
  -- what is left of the paragraph is finished beside the table, in the block around both
  have placed : Markdown.Ordered (line + 1) ({ around with
      children := preface block.firstLine before ++ around.children } :: rest) := by
    refine (ordered.tail.addChildren
      (ordered.tail.head.1.addChildren ?_ pairwise_preface ?_) ?_).succ
    · intro child hm
      obtain ⟨inOrder, place, -⟩ := inOrder_preface child hm
      exact ⟨inOrder, place ▸ follows.own⟩
    · intro child hm earlier he n hn
      rw [(inOrder_preface child hm).2.1]
      exact follows.children earlier he n hn
    · intro child hm n hn
      have same := ((inOrder_preface child hm).2.2 n hn).1
      omega
  refine .behind ⟨opened.pending_paragraph hc hp, ?_, fun _ _ => .inl rfl⟩ fun _ _ => .inl rfl
  refine placed.cons ⟨List.forall_mem_nil _, .nil, List.forall_mem_nil _⟩
    ⟨?_, fun _ => ?_, List.forall_mem_nil _⟩ fun other ho => ?_
  · dsimp only
    omega
  · dsimp only
    omega
  · cases ho
    refine ⟨Nat.le_trans follows.own (Nat.le_add_right _ _), fun child hm n hn => ?_⟩
    dsimp only at hm ⊢
    rcases List.mem_append.1 hm with hm | hm
    · exact ((inOrder_preface child hm).2.2 n hn).2
    · have earlier := follows.children child hm n hn
      omega

theorem Phase.tableStep (h : state.Phase line) (opened : state.Open lines line)
    (hc : state.chain = block :: outer) (more : state.cur.text ≠ [])
    (plain : block.kind.isVerbatim = false) : (Markdown.tableStep state).Ordered line := by
  by_cases head : block.kind = .paragraph false
  · have hp : block.kind.isParagraph = true := by rw [head]; rfl
    rw [tableStep_paragraph hc head]
    split
    · split
      · exact h.openTable opened hc more hp
      · exact h.become opened hc more hp block.lines rfl state.cur
    · trivial
  · by_cases table : block.kind = .table
    · have pending := opened.pending_eq_nil hc fun kind => by rw [table]; rfl
      have ordered := h.before_of_full hc more plain fun kind => by rw [table]; rfl
      rw [pending] at ordered
      obtain ⟨chain, _, cur, mayBeLazy⟩ := state
      obtain ⟨kind, first, texts, children⟩ := block
      cases hc
      cases table
      simp only [Markdown.tableStep]
      split
      · trivial
      · exact .behind ⟨pending, ordered.succ, fun _ _ => .inl rfl⟩ fun _ _ => .inl rfl
    · obtain ⟨chain, pending, cur, mayBeLazy⟩ := state
      obtain ⟨kind, first, texts, children⟩ := block
      cases hc
      cases kind with
      | paragraph noTable => cases noTable <;> trivial
      | table => exact absurd rfl table
      | _ => trivial

end LineState

theorem ordered_openStep (h : state.Phase line) (opened : state.Open lines line)
    (hc : state.chain = block :: outer) (plain : block.kind.isVerbatim = false) (depth : Nat) :
    (openStep state line depth).Ordered line := by
  by_cases more : state.cur.text = []
  · rw [openStep_blank hc more]
    trivial
  have new := fun (kind : OpenKind) (item : kind.isItem = false) =>
    h.opened_block hc more plain item
  rw [openStep_cons hc]
  split
  · split
    · exact LineState.settled_opened (new .indented rfl _) (.inl rfl)
    · trivial
  split
  · refine .inside rfl (new .quote rfl _) fun block hb => ?_
    cases hb
    refine ⟨rfl, Nat.le_refl line, fun kind item => ?_⟩
    cases kind <;> first | rfl | cases item
  split
  · next level _ => exact LineState.settled_opened (new (.heading level) rfl _) (.inr rfl)
  split
  · next mark length _ =>
    exact LineState.settled_opened (new (.fenced mark length _) rfl _) (.inl rfl)
  split
  · next kind _ =>
    have settled := LineState.settled_opened (new (.html kind) rfl state.cur) (.inl rfl)
    refine .behind settled fun block hb => .inr ?_
    cases hb
    rfl
  split
  · next level underlined =>
    have hp : block.kind.isParagraph = true := by
      by_contra other
      rw [if_neg other] at underlined
      cases underlined
    exact h.underline opened hc more hp level
  split
  · exact .behind ⟨rfl, new .rule rfl _, fun _ _ => .inl rfl⟩ fun _ _ => .inl rfl
  split
  · exact h.openItem hc more plain _ _
  · exact h.tableStep opened hc more plain

/-! ## Lines -/

/-- What is left of a line goes to a block that takes it. -/
theorem ordered_addText_taken (h : Ordered (line + 1) chain) {cur : Cursor}
    (takes : ∀ block ∈ chain.head?,
      cur.text = [] ∨ block.kind.isVerbatim = true ∨ block.kind.acceptsLines = true) :
    Ordered (line + 1) (addText line cur chain) := by
  cases chain with
  | nil => exact h
  | cons block outer =>
    cases hv : block.kind.isVerbatim with
    | false =>
      rw [addText_cons hv]
      split
      · exact h
      · next blank =>
        rcases takes block rfl with none | verbatim | accepts
        · exact absurd (List.isEmpty_iff.2 none) blank
        · rw [hv] at verbatim
          cases verbatim
        · rw [if_pos accepts]
          exact h.addLine cur.text
    | true =>
      have added := h.addLine cur.content
      rw [addText]
      cases hk : block.kind with
      | fenced mark length indent => exact added
      | indented => exact added
      | html kind =>
        dsimp only
        split
        · exact added.closeHead (.onLine line)
        · exact added
      | _ =>
        rw [hk] at hv
        cases hv

theorem ordered_addText (h : Ordered (line + 1) chain) {cur : Cursor}
    (opened : Ordered (line + 1) (openChild line (.paragraph false) chain)) :
    Ordered (line + 1) (addText line cur chain) := by
  cases chain with
  | nil => exact h
  | cons block outer =>
    by_cases taken : cur.text = [] ∨ block.kind.isVerbatim = true ∨ block.kind.acceptsLines = true
    · refine ordered_addText_taken h fun head hh => ?_
      cases hh
      exact taken
    · simp only [not_or, Bool.not_eq_true] at taken
      obtain ⟨some, plain, refuses⟩ := taken
      have more : cur.isBlank = false := by simpa [Cursor.isBlank] using some
      rw [addText_cons plain, more, refuses]
      exact opened.addLine cur.text

theorem ordered_finishLine (h : state.Phase line) : Ordered (line + 1) (finishLine line state) := by
  unfold finishLine
  cases h with
  | before ordered =>
    have settled := ordered.closeHeads (.onLine line) state.pending.length
    cases hp : state.pending.reverse with
    | nil =>
      rw [hp] at ordered
      exact ordered_addText ordered.succ (ordered.openChild _)
    | cons innermost others =>
      rw [hp] at ordered
      dsimp only
      split
      · exact (ordered.addLine _).succ
      · exact ordered_addText settled.succ (settled.openChild _)
  | inside pending ordered fresh =>
    rw [pending]
    refine ordered_addText ordered ?_
    cases hc : state.chain with
    | nil =>
      rw [hc] at ordered
      exact ordered.new nofun _
    | cons block outer =>
      have own := fresh block (by rw [hc]; rfl)
      rw [openChild, List.length_cons, closeUnder, if_pos (own.room _ rfl)]
      rw [hc] at ordered
      exact ordered.openInner own.empty own.first _
  | behind settled _ =>
    rw [settled.pending]
    exact ordered_addText_taken settled.ordered settled.takes

theorem ordered_finishLine_settled (h : state.Settled line) :
    Ordered (line + 1) (finishLine line state) := by
  unfold finishLine
  rw [h.pending]
  exact ordered_addText_taken h.ordered h.takes

/-- The markers of a line and what is left of it. -/
theorem ordered_openBlocks (hr : Reads lines line text) (fuel depth : Nat)
    (sound : state.Sound lines line text) (h : state.Phase line) :
    Ordered (line + 1) (finishLine line (openBlocks line fuel depth state)) := by
  -- by the number of markers; the phase after one is where the next begins
  induction fuel generalizing depth state with
  | zero => exact ordered_finishLine h
  | succ fuel ih =>
    obtain ⟨block, outer, hc⟩ := List.exists_cons_of_ne_nil sound.nonempty
    cases hv : block.kind.isVerbatim with
    | true =>
      simp only [openBlocks, hc, hv, if_true]
      exact ordered_finishLine h
    | false =>
      have step := ordered_openStep h sound.toOpen hc hv depth
      have next := sound_openStep sound hr hc depth
      cases hs : openStep state line depth with
      | done =>
        rw [openBlocks_done hc hv fuel hs]
        exact ordered_finishLine h
      | opened later =>
        rw [hs] at step next
        rw [openBlocks_opened hc hv fuel hs]
        refine ih (depth + 1) ⟨⟨next.all, next.nonempty⟩, next.cur⟩ ?_
        cases step with
        | before ordered => exact .before ordered
        | inside pending ordered fresh => exact .inside pending ordered fresh
        | behind settled rest =>
          exact .behind ⟨settled.pending, settled.ordered, settled.takes⟩ rest
      | last later =>
        rw [hs] at step
        rw [openBlocks_last hc hv fuel hs]
        exact ordered_finishLine_settled step

/-- What the open blocks leave of a line. -/
def Descent.Ordered (line : Nat) : Descent → Prop
  | .reached state => Markdown.Ordered line (state.pending.reverse ++ state.chain)
  | .fenced chain => Markdown.Ordered line chain

theorem ordered_descend {pending : List OpenBlock} {cur : Cursor}
    (h : Ordered line (pending.reverse ++ chain)) :
    (descend chain pending cur).Ordered line := by
  induction pending generalizing chain cur with
  | nil => exact h
  | cons block inner ih =>
    have deeper := h
    rw [List.reverse_cons, List.append_assoc, List.singleton_append] at deeper
    rw [descend]
    split
    · exact ih deeper
    · exact h
    · exact deeper.of_append

theorem ordered_readLine (hr : Reads lines line text) (sound : SoundAll lines (line - 1) line chain)
    (h : Ordered line chain) : Ordered (line + 1) (readLine chain line text) := by
  cases hc : chain.reverse with
  | nil =>
    obtain rfl := List.reverse_eq_nil_iff.1 hc
    exact h.succ
  | cons document blocks =>
    have order : chain = blocks.reverse ++ [document] := by
      rw [← List.reverse_reverse chain, hc, List.reverse_cons]
    rw [order] at h sound
    have matched := sound_descend hr sound (List.cons_ne_nil _ _) fun _ => Cursor.at_start text
    have left := @ordered_descend _ [document] blocks { rest := text } h
    rw [readLine_eq hc]
    cases hd : descend [document] blocks { rest := text } with
    | reached state =>
      rw [hd] at matched left
      exact ordered_openBlocks hr (text.length + 1) 0
        ⟨⟨matched.all, matched.nonempty⟩, matched.cur⟩ (.before left)
    | fenced inner =>
      rw [hd] at left
      exact (left.closeHead (.onLine line)).succ

theorem ordered_readLines {texts : List (List Char)} (first : 0 < line)
    (read : ∀ i text, texts[i]? = some text → lines[line - 1 + i]? = some text)
    (sound : SoundAll lines (line - 1) line chain) (h : Ordered line chain) :
    Ordered (line + texts.length) (readLines chain line texts) := by
  induction texts generalizing chain line with
  | nil => exact h
  | cons text more ih =>
    have own : Reads lines line text := ⟨first, read 0 text rfl⟩
    rw [readLines, List.length_cons, ← Nat.add_assoc, Nat.add_right_comm]
    refine ih (Nat.succ_pos line) (fun i next hn => ?_) (soundAll_readLine own sound)
      (ordered_readLine own sound h)
    have place : line + 1 - 1 + i = line - 1 + (i + 1) := by omega
    rw [place]
    exact read (i + 1) next hn

end

/-- The blocks of a text are in order, and so is what is inside each. -/
theorem inOrder_blocks (text : List Char) :
    (blocks text).Pairwise Block.Before ∧ ∀ block ∈ blocks text, block.InOrder := by
  have start : Ordered 1 [{ kind := .document, firstLine := 1 }] := by
    refine ⟨⟨⟨nofun, .nil, nofun⟩, nofun, trivial⟩, fun block hb => ?_⟩
    obtain rfl := List.mem_singleton.1 hb
    exact ⟨Nat.le_refl 1, fun other => absurd rfl other, nofun⟩
  have read := ordered_readLines Nat.zero_lt_one
    (fun i line hl => by rwa [Nat.sub_self, Nat.zero_add])
    (soundAll_start (bodyLines (cleaned text))) start
  unfold blocks
  dsimp only
  generalize bodyLines (cleaned text) = lines at read ⊢
  generalize readLines [{ kind := .document, firstLine := 1 }] 1 lines = chain at read ⊢
  have closed := read.closeHeads (.atEnd lines.length) (chain.length - 1)
  cases hd : closeHeads (.atEnd lines.length) (chain.length - 1) chain with
  | nil => exact ⟨.nil, nofun⟩
  | cons document outer =>
    rw [hd] at closed
    obtain ⟨-, apart, inner⟩ := closed.head.1
    exact ⟨List.pairwise_reverse.2 apart, fun block hb => inner block (List.mem_reverse.1 hb)⟩

end Markdown
end DocModel

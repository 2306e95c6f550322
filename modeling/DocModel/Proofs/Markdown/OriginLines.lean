import DocModel.Proofs.Markdown.Origins

/-!
# DocModel.Proofs.Markdown.OriginLines

The blocks of a text come from its lines: `origins` says of all of them what
`DocModel.Proofs.Markdown.Origins` defines.

* `LineState.Sound` and `LineState.Ready` are what a line keeps while it is read;
* `sound_openStep` is one marker, `soundAll_readLine` one line, `soundAll_readLines` any number of
  them.
-/

namespace DocModel
namespace Markdown

/-! ## Opening blocks -/

/-- The line of the text that is being read. -/
structure Reads (lines : List (List Char)) (line : Nat) (text : List Char) : Prop where
  first : 0 < line
  read : lines[line - 1]? = some text

/-- The open blocks of a state are what they have to be. -/
structure LineState.Open (lines : List (List Char)) (line : Nat) (state : LineState) : Prop where
  /-- Those that are left behind stand inside the others. -/
  all : SoundAll lines line line (state.pending.reverse ++ state.chain)
  nonempty : state.chain ≠ []

/-- A state before the next marker. Where no quotation is open, the markers before it are those of
the items that were opened on this line, unless the rest of the line is gone. -/
structure LineState.Sound (lines : List (List Char)) (line : Nat) (text : List Char)
    (state : LineState) : Prop extends state.Open lines line where
  cur : ∀ enclosing, enclosing? state.chain = some enclosing →
    (state.cur.text = [] ∧ ∀ block ∈ state.chain.head?, block.kind.isVerbatim = false) ∨
      ∃ rest, AfterMarkers text (enclosing.count line) rest ∧
        state.cur.At (rest.dropWhile isSpaceOrTab)

/-- A state behind the last marker. What is left for a code block in the document is the line. -/
structure LineState.Ready (lines : List (List Char)) (line : Nat) (text : List Char)
    (state : LineState) : Prop extends state.Open lines line where
  /-- Nothing is taken from the line, unless it is the fence that opens the block. -/
  code : ∀ block outer, state.chain = block :: outer → outer.length = 1 →
    block.kind.isCode = true → (block.kind.isFenced = true ∧ block.lines = []) ∨
      state.cur.content.dropWhile isSpaceOrTab = text.dropWhile isSpaceOrTab

section

variable {lines : List (List Char)} {line : Nat} {text : List Char} {state : LineState}
  {chain outer : List OpenBlock} {block : OpenBlock} {kind : OpenKind}

theorem Reads.le (h : Reads lines line text) : line ≤ lines.length := by
  have inside := (List.getElem?_eq_some_iff.1 h.read).1
  have first := h.first
  omega

theorem Reads.inside (h : Reads lines line text) : (Closing.onLine line).Inside lines :=
  inside_onLine h.le

theorem sound_new (h : Reads lines line text) (nonempty : outer ≠ [])
    (fits : ∀ around ∈ outer.head?, around.kind.canContain kind = true)
    (item : kind.isItem = true → ∀ enclosing, enclosing? outer = some enclosing →
      MarkedLine lines enclosing line) :
    OpenBlock.Sound lines line line outer { kind, firstLine := line } := by
  refine ⟨fits, fun none => absurd none nonempty, h.first, fun _ => Nat.le_refl line,
    fun _ => Nat.le_refl line,
    item, fun _ _ => ⟨rfl, fun i text ht _ => ?_⟩, fun child hc => ?_⟩
  · cases ht
  · cases hc

theorem soundAll_openChild (h : Reads lines line text) (hc : SoundAll lines line line chain)
    (nonempty : chain ≠ []) (item : kind.isItem = false) :
    SoundAll lines line line (openChild line kind chain) := by
  obtain ⟨around, rest, cut, room⟩ :=
    canContain_closeUnder (.onLine line) item hc h.inside h.le nonempty (Nat.le_refl _)
  have closed := soundAll_closeUnder h.inside h.le kind chain.length hc
  refine ⟨sound_new h ?_ ?_ fun own => ?_, closed⟩
  · rw [cut]
    exact List.cons_ne_nil _ _
  · rw [cut]
    intro block hb
    cases hb
    exact room
  · rw [item] at own
    cases own

theorem openChild_list {marker : ListMarker} (hk : block.kind = .list marker) (width : Nat) :
    openChild line (.item width) (block :: outer) =
      { kind := .item width, firstLine := line } :: block :: outer := by
  rw [openChild, List.length_cons, closeUnder, hk]
  rfl

namespace LineState

theorem Open.settled (h : state.Open lines line) (hr : Reads lines line text) :
    SoundAll lines line line (state.settled line) ∧
      shape (state.settled line) = shape state.chain := by
  have same := shape_closeHeads (.onLine line) state.pending.reverse h.nonempty
  rw [List.length_reverse] at same
  exact ⟨soundAll_closeHeads hr.inside hr.le _ h.all, same⟩

theorem ne_nil_of_shape {first second : List OpenBlock} (h : shape first = shape second)
    (nonempty : second ≠ []) : first ≠ [] := by
  rintro rfl
  exact nonempty (List.map_eq_nil_iff.1 h.symm)

theorem Open.opened (h : state.Open lines line) (hr : Reads lines line text)
    (item : kind.isItem = false) (cur : Cursor) : (state.opened line kind cur).Open lines line := by
  obtain ⟨sound, same⟩ := h.settled hr
  exact ⟨soundAll_openChild hr sound (ne_nil_of_shape same h.nonempty) item, List.cons_ne_nil _ _⟩

/-- The items around a new block are those around the place where it was opened. -/
theorem Open.enclosing?_opened (h : state.Open lines line) (hr : Reads lines line text)
    (item : kind.isItem = false) (cur : Cursor) :
    ∃ outer, (state.opened line kind cur).chain = { kind, firstLine := line } :: outer ∧
      enclosing? outer = enclosing? state.chain := by
  refine ⟨_, rfl, ?_⟩
  rw [enclosing?_closeUnder _ item, enclosing?_of_shape (h.settled hr).2]

/-- Only a block that may hold another one leaves open blocks behind. -/
theorem Open.pending_eq_nil (h : state.Open lines line) (hc : state.chain = block :: outer)
    (full : ∀ kind, block.kind.canContain kind = false) : state.pending = [] := by
  have all := h.all
  rw [hc] at all
  cases hp : state.pending with
  | nil => rfl
  | cons first rest =>
    rw [hp, List.reverse_cons, List.append_assoc] at all
    have fits := all.of_append.1.fits block rfl
    rw [full] at fits
    cases fits

theorem Open.head (h : state.Open lines line) (hc : state.chain = block :: outer) :
    SoundAll lines line line (block :: outer) := by
  rw [← hc]
  exact h.all.of_append

/-- In the document nothing of the line is taken before a code block. -/
theorem Sound.ready (h : state.Sound lines line text) : state.Ready lines line text := by
  refine ⟨h.toOpen, fun block outer hc single code => ?_⟩
  obtain ⟨document, rfl⟩ := List.length_eq_one_iff.1 single
  have root := (h.head hc).2.1.root rfl
  have none : enclosing? state.chain = some [] := by
    rw [hc, enclosing?, enclosing?, root]
    cases hk : block.kind <;> first | rfl | (rw [hk] at code; cases code)
  rcases h.cur [] none with ⟨-, plain⟩ | ⟨rest, taken, place⟩
  · rw [OpenKind.isCode_of_isVerbatim (plain block (by rw [hc]; rfl))] at code
    cases code
  · cases taken
    exact .inr place.content

theorem Open.ready_opened (h : state.Open lines line) (hr : Reads lines line text)
    (item : kind.isItem = false) {cur : Cursor}
    (code : enclosing? state.chain = some [] → kind.isCode = true → kind.isFenced = true ∨
      cur.content.dropWhile isSpaceOrTab = text.dropWhile isSpaceOrTab) :
    (state.opened line kind cur).Ready lines line text := by
  have opened := h.opened hr item cur
  obtain ⟨around, cut, same⟩ := h.enclosing?_opened hr item cur
  refine ⟨opened, fun block outer hc single own => ?_⟩
  obtain ⟨rfl, rfl⟩ := List.cons.inj (cut.symm.trans hc)
  obtain ⟨document, rfl⟩ := List.length_eq_one_iff.1 single
  have root := (opened.head hc).2.1.root rfl
  rw [enclosing?, root] at same
  exact (code same.symm own).imp_left fun fence => ⟨fence, rfl⟩

theorem Open.sound_skipAll (h : state.Open lines line)
    (plain : ∀ block ∈ state.chain.head?, block.kind.isVerbatim = false)
    (blank : state.cur.text = []) : state.Sound lines line text :=
  ⟨h, fun _ _ => .inl ⟨blank, plain⟩⟩

theorem Sound.place (h : state.Sound lines line text) (some : state.cur.text ≠ [])
    {enclosing : List Nat} (he : enclosing? state.chain = .some enclosing) :
    ∃ rest, AfterMarkers text (enclosing.count line) rest ∧
      state.cur.At (rest.dropWhile isSpaceOrTab) := by
  rcases h.cur enclosing he with ⟨none, -⟩ | place
  · exact absurd none some
  · exact place

end LineState

/-! ## Markers -/

/-- What the next marker of a line leaves. -/
def Step.Sound (lines : List (List Char)) (line : Nat) (text : List Char) : Step → Prop
  | .done => True
  | .opened next => next.Sound lines line text
  | .last next => next.Ready lines line text

theorem enclosing?_leaf (item : block.kind.isItem = false) {enclosing : List Nat}
    (he : enclosing? (block :: outer) = some enclosing) : enclosing? outer = some enclosing := by
  obtain ⟨kind, first, texts, children⟩ := block
  cases kind <;> first | exact he | cases he | cases item

/-- A paragraph that turns out to be another block, or loses lines. -/
theorem OpenBlock.Sound.become (h : block.Sound lines line line outer)
    (hp : block.kind.isParagraph = true) (item : kind.isItem = false) (list : kind.isList = false)
    (code : kind.isCode = false) {texts : List (List Char)}
    (fewer : texts.length ≤ block.lines.length) :
    OpenBlock.Sound lines line line outer { block with kind, lines := texts } := by
  obtain ⟨own, first, taken, children⟩ := block
  cases own with
  | paragraph noTable =>
    refine ⟨fun around ha => OpenKind.canContain_of_paragraph (h.fits around ha) item,
      fun none => ?_, h.first, h.opened,
      fun _ => Nat.le_trans (Nat.add_le_add_left fewer first) (h.paragraph rfl), fun hi => ?_,
      fun hc => ?_, fun child hc => ?_⟩
    · cases h.root none
    · rw [item] at hi
      cases hi
    · rw [code] at hc
      cases hc
    · have inside := h.children child hc
      refine ⟨inside.within, fun enclosing he => inside.marked enclosing ?_, fun hl => ?_,
        inside.literal⟩
      · exact enclosing?_leaf (by exact item) he
      · rw [list] at hl
        cases hl
  | _ => cases hp

namespace LineState

/-- The list for an item, at the place where the state is. -/
theorem Open.inList (h : state.Open lines line) (hr : Reads lines line text) (marker : ListMarker)
    (cur : Cursor) :
    ∃ base : LineState,
      (if state.chain.head?.any (OpenBlock.isListOf marker) then state
        else state.opened line (.list marker) cur) = base ∧
      base.Open lines line ∧ enclosing? base.chain = enclosing? state.chain ∧
      ∃ block outer, base.chain = block :: outer ∧ ∃ other, block.kind = .list other := by
  refine ⟨_, rfl, ?_⟩
  split
  · next own =>
    obtain ⟨block, outer, hc⟩ := List.exists_cons_of_ne_nil h.nonempty
    refine ⟨h, rfl, block, outer, hc, ?_⟩
    rw [hc, List.head?_cons, Option.any_some] at own
    obtain ⟨kind, first, texts, children⟩ := block
    cases kind <;> first | exact ⟨_, rfl⟩ | cases own
  · obtain ⟨around, cut, place⟩ := @Open.enclosing?_opened _ _ _ _ (.list marker) h hr rfl cur
    exact ⟨h.opened hr rfl cur, by rw [cut, enclosing?, place], _, _, cut, marker, rfl⟩

theorem Open.opened_item (h : state.Open lines line) (hr : Reads lines line text)
    (hc : state.chain = block :: outer) {marker : ListMarker} (hk : block.kind = .list marker)
    (own : ∀ enclosing, enclosing? state.chain = some enclosing → MarkedLine lines enclosing line)
    (width : Nat) (cur : Cursor) :
    (state.opened line (.item width) cur).Open lines line ∧
      enclosing? (state.opened line (.item width) cur).chain =
        (enclosing? state.chain).map (line :: ·) := by
  obtain ⟨sound, shaped⟩ := h.settled hr
  obtain ⟨list, around, cut⟩ :=
    List.exists_cons_of_ne_nil (ne_nil_of_shape shaped h.nonempty)
  have kind : list.kind = .list marker := by
    rw [cut, hc] at shaped
    rw [← hk]
    exact (Prod.mk.inj (List.cons.inj shaped).1).1
  have opened : (state.opened line (.item width) cur).chain =
      { kind := .item width, firstLine := line } :: list :: around := by
    rw [LineState.opened, cut]
    exact openChild_list kind width
  rw [cut] at sound
  have place := enclosing?_of_shape shaped
  rw [cut] at place
  refine ⟨⟨?_, by rw [opened]; exact List.cons_ne_nil _ _⟩, ?_⟩
  · have all : SoundAll lines line line (state.opened line (.item width) cur).chain := by
      rw [opened]
      refine ⟨sound_new hr (List.cons_ne_nil _ _) (fun block hb => ?_) fun _ enclosing he => ?_,
        sound⟩
      · cases hb
        rw [kind]
        rfl
      · exact own enclosing (place ▸ he)
    exact all
  · rw [opened, ← place]
    rfl

theorem Sound.openItem (h : state.Sound lines line text) (hr : Reads lines line text)
    (some : state.cur.text ≠ []) {interrupts : Bool} {marker : ListMarker} {length : Nat}
    (hm : listMarker? interrupts state.cur.text = .some (marker, length)) :
    (Markdown.openItem state line marker length).Sound lines line text := by
  -- behind the markers before this one there is one more
  have next : ∀ enclosing, enclosing? state.chain = .some enclosing →
      AfterMarkers text (enclosing.count line + 1) (state.cur.text.drop length) := by
    intro enclosing he
    obtain ⟨rest, taken, place⟩ := h.place some he
    rw [place.text] at hm ⊢
    exact .next taken (afterMarker_listMarker? hm)
  rw [openItem_eq]
  obtain ⟨base, hb, opened, same, list, outer, hc, other, hk⟩ :=
    h.toOpen.inList hr marker (itemContent state.cur length).1
  rw [hb]
  obtain ⟨item, around⟩ := opened.opened_item hr hc hk
    (fun enclosing he => ⟨hr.first, text, _, hr.read, next enclosing (same ▸ he)⟩)
    (itemContent state.cur length).2 (itemContent state.cur length).1
  refine ⟨item, fun enclosing he => .inr ?_⟩
  rw [around, same] at he
  obtain ⟨inner, hi, rfl⟩ := Option.map_eq_some_iff.1 he
  refine ⟨_, ?_, at_itemContent state.cur length⟩
  rw [List.count_cons_self]
  exact next inner hi

theorem Open.pending_paragraph (h : state.Open lines line) (hc : state.chain = block :: outer)
    (hp : block.kind.isParagraph = true) : state.pending = [] := by
  refine h.pending_eq_nil hc fun kind => ?_
  obtain ⟨own, first, texts, children⟩ := block
  cases own <;> first | rfl | cases hp

/-- A paragraph that turns out to be another block behind the last marker. -/
theorem Open.become (h : state.Open lines line) (hc : state.chain = block :: outer)
    (hp : block.kind.isParagraph = true) (item : kind.isItem = false) (list : kind.isList = false)
    (code : kind.isCode = false) {texts : List (List Char)}
    (fewer : texts.length ≤ block.lines.length) (cur : Cursor) :
    LineState.Ready lines line text
      { state with chain := { block with kind, lines := texts } :: outer, cur } := by
  obtain ⟨own, rest⟩ := h.head hc
  refine ⟨⟨?_, List.cons_ne_nil _ _⟩, fun inner around hi _ hk => ?_⟩
  · rw [h.pending_paragraph hc hp]
    exact ⟨own.become hp item list code fewer, rest⟩
  · cases hi
    rw [code] at hk
    cases hk

theorem Open.underline (h : state.Open lines line) (hc : state.chain = block :: outer)
    (hp : block.kind.isParagraph = true) (level : Nat) :
    (Markdown.underline state block outer level).Ready lines line text := by
  obtain ⟨kind, first, texts, children⟩ := block
  cases kind with
  | paragraph noTable =>
    rw [Markdown.underline]
    split
    · exact h.become hc hp rfl rfl rfl (Nat.zero_le _) state.cur
    · exact h.become hc hp rfl rfl rfl (Nat.le_refl _) state.cur.skipAll
  | _ => cases hp

/-- The head of a table ends a paragraph before its last line. -/
theorem Open.openTable (h : state.Open lines line) (hr : Reads lines line text)
    (hc : state.chain = block :: outer) {noTable : Bool} (hk : block.kind = .paragraph noTable) :
    (Markdown.openTable state block outer).Sound lines line text := by
  obtain ⟨own, rest⟩ := h.head hc
  have paragraph : block.kind.isParagraph = true := by rw [hk]; rfl
  have taken := own.paragraph paragraph
  have reached := hr.le
  have first := own.first
  obtain ⟨around, others, rfl⟩ : ∃ around others, outer = around :: others := by
    refine List.exists_cons_of_ne_nil fun none => ?_
    rw [own.root none] at hk
    cases hk
  have begun := own.opened (List.cons_ne_nil _ _)
  have room := own.fits around rfl
  rw [hk] at room
  have before : ∀ child ∈ preface block.firstLine (block.lines.length - 1),
      Child lines others around child := by
    intro child hm
    rw [preface] at hm
    split at hm
    · cases hm
    · rw [List.mem_singleton] at hm
      subst hm
      refine ⟨⟨first, Nat.max_le.2 ⟨by omega, by omega⟩⟩, fun _ _ => .other (by nofun) (by nofun),
        fun list => ?_, fun _ => by nofun⟩
      cases OpenKind.isList_of_canContain room list
  have table : ∀ children, OpenBlock.Sound lines line line ({ around with children } :: others)
      { kind := .table, firstLine := block.firstLine + (block.lines.length - 1) } := by
    intro children
    refine ⟨fun inner hi => ?_, by nofun, Nat.add_pos_left first _, ?_, by nofun, by nofun,
      by nofun, by nofun⟩
    · cases hi
      exact OpenKind.canContain_of_paragraph room rfl
    · intro _
      dsimp only
      omega
  rw [openTable_cons]
  refine LineState.Open.sound_skipAll ⟨?_, List.cons_ne_nil _ _⟩
    (fun head hh => by cases hh; rfl) rfl
  dsimp only
  rw [h.pending_paragraph hc paragraph]
  exact ⟨table _, rest.1.addChildren before, rest.2⟩

theorem Open.tableStep (h : state.Open lines line) (hr : Reads lines line text)
    (hc : state.chain = block :: outer) : (Markdown.tableStep state).Sound lines line text := by
  by_cases head : block.kind = .paragraph false
  · have hp : block.kind.isParagraph = true := by rw [head]; rfl
    rw [tableStep_paragraph hc head]
    split
    · split
      · exact h.openTable hr hc head
      · exact h.become hc hp rfl rfl rfl (Nat.le_refl _) state.cur
    · trivial
  · obtain ⟨chain, pending, cur, mayBeLazy⟩ := state
    obtain ⟨kind, first, texts, children⟩ := block
    cases hc
    cases kind with
    | paragraph noTable =>
      cases noTable with
      | true => trivial
      | false => exact absurd rfl head
    | table =>
      simp only [Markdown.tableStep]
      split
      · trivial
      · exact LineState.Open.sound_skipAll ⟨h.all, h.nonempty⟩ (fun head hh => by cases hh; rfl) rfl
    | _ => trivial

end LineState

theorem sound_openStep (h : state.Sound lines line text) (hr : Reads lines line text)
    (hc : state.chain = block :: outer) (depth : Nat) :
    (openStep state line depth).Sound lines line text := by
  by_cases some : state.cur.text = []
  · rw [openStep_blank hc some]
    trivial
  rw [openStep_cons hc]
  split
  · next deep =>
    split
    · refine h.toOpen.ready_opened hr rfl fun top _ => .inr ?_
      obtain ⟨rest, taken, place⟩ := h.place some top
      cases taken
      exact (place.skipColumns deep).content
    · trivial
  split
  · refine ⟨h.toOpen.opened hr rfl _, fun enclosing he => ?_⟩
    cases he
  split
  · exact h.toOpen.ready_opened hr rfl fun _ code => by cases code
  split
  · exact h.toOpen.ready_opened hr rfl fun _ _ => .inl rfl
  split
  · next kind _ =>
    obtain ⟨around, cut, same⟩ :=
      @LineState.Open.enclosing?_opened _ _ _ _ (.html kind) h.toOpen hr rfl state.cur
    refine ⟨h.toOpen.opened hr rfl _, fun enclosing he => .inr ?_⟩
    rw [cut, enclosing?, same] at he
    exact h.place some he
  split
  · next level underlined =>
    have hp : block.kind.isParagraph = true := by
      by_contra other
      rw [if_neg other] at underlined
      cases underlined
    exact h.toOpen.underline hc hp level
  split
  · exact LineState.Open.sound_skipAll (h.toOpen.opened hr rfl _)
      (fun head hh => by cases hh; rfl) rfl
  split
  · next marked _ => exact h.openItem hr some marked
  · exact h.toOpen.tableStep hr hc

theorem ready_openBlocks (hr : Reads lines line text) (fuel depth : Nat)
    (h : state.Sound lines line text) :
    (openBlocks line fuel depth state).Ready lines line text := by
  induction fuel generalizing depth state with
  | zero => exact h.ready
  | succ fuel ih =>
    obtain ⟨block, outer, hc⟩ := List.exists_cons_of_ne_nil h.nonempty
    cases hv : block.kind.isVerbatim with
    | true =>
      simp only [openBlocks, hc, hv, if_true]
      exact h.ready
    | false =>
      have step := sound_openStep h hr hc depth
      cases hs : openStep state line depth with
      | done =>
        rw [openBlocks_done hc hv fuel hs]
        exact h.ready
      | opened next =>
        rw [hs] at step
        rw [openBlocks_opened hc hv fuel hs]
        exact ih (depth + 1) ⟨⟨step.all, step.nonempty⟩, step.cur⟩
      | last next =>
        rw [hs] at step
        rw [openBlocks_last hc hv fuel hs]
        exact step

/-! ## The text of a line -/

theorem OpenBlock.Sound.addLine (h : block.Sound lines line line outer)
    (hr : Reads lines line text) {content : List Char}
    (code : outer.length = 1 → block.kind.isCode = true →
      (block.kind.isFenced = true ∧ block.lines = []) ∨
        content.dropWhile isSpaceOrTab = text.dropWhile isSpaceOrTab) :
    (block.addLine content).Sound lines line (line + 1) outer := by
  refine ⟨h.fits, h.root, h.first, h.opened, fun hp => Nat.succ_le_succ (h.paragraph hp), h.item,
    fun hc top => ?_, fun child hm => ?_⟩
  · obtain ⟨count, copied⟩ := h.code hc top
    refine ⟨congrArg Nat.succ count, fun i seen hi inner => ?_⟩
    simp only [OpenBlock.addLine, List.reverse_cons] at hi
    rcases Nat.lt_or_ge i block.lines.reverse.length with before | last
    · rw [List.getElem?_append_left before] at hi
      exact copied i seen hi inner
    · -- the line that is read comes last
      rw [List.getElem?_append_right last, List.getElem?_singleton] at hi
      split at hi
      · next zero =>
        have place : block.firstLine - 1 + i = line - 1 := by
          have first := h.first
          rw [List.length_reverse] at last zero
          omega
        rcases code top hc with ⟨fence, none⟩ | same
        · rw [none, List.reverse_nil, List.length_nil] at zero
          exact absurd (inner fence) (by omega)
        · refine ⟨text, ?_, by rw [← Option.some.inj hi, same]⟩
          exact (congrArg (lines[·]?) place).trans hr.read
      · cases hi
  · have inside := h.children child hm
    exact ⟨inside.within, inside.marked, inside.item, inside.literal⟩

/-- The text of a line in the innermost block, or in a new paragraph. -/
theorem soundAll_addText (hr : Reads lines line text) (h : SoundAll lines line line chain)
    {cur : Cursor} (code : ∀ block outer, chain = block :: outer → outer.length = 1 →
      block.kind.isCode = true → (block.kind.isFenced = true ∧ block.lines = []) ∨
        cur.content.dropWhile isSpaceOrTab = text.dropWhile isSpaceOrTab) :
    SoundAll lines line (line + 1) (addText line cur chain) := by
  cases chain with
  | nil => trivial
  | cons block outer =>
    have added := h.1.addLine hr (code block outer rfl)
    have around := h.later_tail
    cases hv : block.kind.isVerbatim with
    | false =>
      have plain := OpenKind.isCode_of_isVerbatim hv
      rw [addText_cons hv]
      split
      · exact h.later plain
      split
      · refine ⟨h.1.addLine hr fun _ own => ?_, around⟩
        rw [plain] at own
        cases own
      · have opened :=
          @soundAll_openChild _ _ _ _ (.paragraph false) hr h (List.cons_ne_nil _ _) rfl
        exact ⟨opened.1.addLine hr (by nofun), opened.later_tail⟩
    | true =>
      have chained : SoundAll lines line (line + 1) (block.addLine cur.content :: outer) :=
        ⟨added, around⟩
      rw [addText]
      cases hk : block.kind with
      | fenced mark length indent => exact chained
      | indented => exact chained
      | html kind =>
        dsimp only
        split
        · exact soundAll_closeHead hr.inside hr.le chained
        · exact chained
      | _ =>
        rw [hk] at hv
        cases hv

theorem soundAll_finishLine (hr : Reads lines line text) (h : state.Ready lines line text) :
    SoundAll lines line (line + 1) (finishLine line state) := by
  have all := h.all
  obtain ⟨sound, shaped⟩ := h.toOpen.settled hr
  unfold finishLine
  cases hp : state.pending.reverse with
  | nil =>
    rw [hp] at all
    exact soundAll_addText hr all h.code
  | cons innermost others =>
    rw [hp] at all
    dsimp only
    split
    · next lazy =>
      refine ⟨all.1.addLine hr fun _ own => ?_, all.later_tail⟩
      rw [OpenKind.isCode_of_isParagraph (Bool.and_eq_true_iff.1 lazy).1] at own
      cases own
    · refine soundAll_addText hr sound fun block outer hc _ own => ?_
      -- a code block leaves no open blocks behind
      obtain ⟨head, rest, cut⟩ := List.exists_cons_of_ne_nil h.nonempty
      rw [hc, cut] at shaped
      have same : block.kind = head.kind := (Prod.mk.inj (List.cons.inj shaped).1).1
      have none := h.toOpen.pending_eq_nil cut fun kind => by
        by_contra room
        rw [same, OpenKind.isCode_of_canContain (by simpa using room)] at own
        cases own
      rw [none] at hp
      cases hp


/-! ## The open blocks of a line -/

/-- What is ahead past the marker that an open block takes. -/
theorem Cursor.At.continues {cur next : Cursor} {ahead : List Char} (h : cur.At ahead)
    {hasChild : Bool} (quote : block.kind ≠ .quote)
    (hn : block.continues hasChild cur = .within next) : next.At ahead := by
  obtain ⟨kind, first, texts, children⟩ := block
  cases kind with
  | quote => exact absurd rfl quote
  | heading level => cases hn
  | item width =>
    simp only [OpenBlock.continues] at hn
    split at hn
    · next deep =>
      cases hn
      exact h.skipColumns deep
    split at hn
    · cases hn
      exact h.skipIndent
    · cases hn
  | fenced mark length indent =>
    simp only [OpenBlock.continues] at hn
    split at hn
    · cases hn
    · cases hn
      exact h.skipBlanksUpTo indent
  | indented =>
    simp only [OpenBlock.continues] at hn
    split at hn
    · next deep =>
      cases hn
      exact h.skipColumns deep
    split at hn
    · cases hn
      exact h.skipIndent
    · cases hn
  | paragraph noTable =>
    simp only [OpenBlock.continues] at hn
    split at hn <;> cases hn
    exact h
  | html kind =>
    simp only [OpenBlock.continues] at hn
    split at hn <;> cases hn
    exact h
  | table =>
    simp only [OpenBlock.continues] at hn
    split at hn <;> cases hn
    exact h
  | _ =>
    cases hn
    exact h

/-- Only a code block with a fence is closed by a line. -/
theorem isFenced_of_closing {cur : Cursor} {hasChild : Bool}
    (h : block.continues hasChild cur = .closing) : block.kind.isFenced = true := by
  obtain ⟨kind, first, texts, children⟩ := block
  cases kind <;> first | rfl | cases h | skip
  all_goals simp only [OpenBlock.continues] at h
  all_goals split at h <;> first | cases h | skip
  all_goals split at h <;> cases h

/-- What the open blocks leave of a line. -/
def Descent.Sound (lines : List (List Char)) (line : Nat) (text : List Char) : Descent → Prop
  | .reached state => state.Sound lines line text
  | .fenced chain => SoundAll lines (line - 1) line chain ∧
      ∃ block outer, chain = block :: outer ∧ block.kind.isFenced = true

/-- Inside a quotation is also what is inside a block inside it. -/
theorem enclosing?_cons_eq_none (block : OpenBlock) (h : enclosing? outer = none) :
    enclosing? (block :: outer) = none := by
  rw [enclosing?]
  cases block.kind <;> simp [h]

/-- Before the first marker. No item around begins on this line. -/
theorem sound_reached (hr : Reads lines line text) {pending : List OpenBlock}
    (h : SoundAll lines (line - 1) line (pending.reverse ++ chain)) (nonempty : chain ≠ [])
    {cur : Cursor} (hc : enclosing? chain ≠ none → cur.At (text.dropWhile isSpaceOrTab))
    (mayBeLazy : Bool) : LineState.Sound lines line text { chain, pending, cur, mayBeLazy } := by
  refine ⟨⟨h.mono (Nat.sub_le line 1), nonempty⟩, fun enclosing he => .inr ?_⟩
  have none : enclosing.count line = 0 := by
    refine List.count_eq_zero.2 fun own => ?_
    have before := h.of_append.le_opened he line own
    have first := hr.first
    omega
  rw [none]
  exact ⟨text, .start, hc (by rw [he]; exact Option.some_ne_none _)⟩

theorem sound_descend (hr : Reads lines line text) {pending : List OpenBlock}
    (h : SoundAll lines (line - 1) line (pending.reverse ++ chain)) (nonempty : chain ≠ [])
    {cur : Cursor} (hc : enclosing? chain ≠ none → cur.At (text.dropWhile isSpaceOrTab)) :
    (descend chain pending cur).Sound lines line text := by
  induction pending generalizing chain cur with
  | nil => exact @sound_reached _ _ _ _ hr [] h nonempty _ hc false
  | cons block inner ih =>
    have deeper := h
    rw [List.reverse_cons, List.append_assoc, List.singleton_append] at deeper
    rw [descend]
    split
    · next within =>
      refine ih deeper (List.cons_ne_nil _ _) fun he => ?_
      refine (hc fun outside => he (enclosing?_cons_eq_none block outside)).continues ?_ within
      intro quote
      refine he ?_
      rw [enclosing?, quote]
    · exact sound_reached hr h nonempty hc false
    · next closing =>
      exact ⟨deeper.of_append, block, chain, rfl, isFenced_of_closing closing⟩

/-! ## Lines -/

theorem soundAll_readLine (hr : Reads lines line text) (h : SoundAll lines (line - 1) line chain) :
    SoundAll lines line (line + 1) (readLine chain line text) := by
  cases hc : chain.reverse with
  | nil =>
    unfold readLine
    rw [hc]
    trivial
  | cons document blocks =>
    have order : chain = blocks.reverse ++ [document] := by
      rw [← List.reverse_reverse chain, hc, List.reverse_cons]
    rw [order] at h
    have matched := sound_descend hr h (List.cons_ne_nil _ _) fun _ => Cursor.at_start text
    rw [readLine_eq hc]
    cases hd : descend [document] blocks { rest := text } with
    | reached state =>
      rw [hd] at matched
      have begun : LineState.Sound lines line text
          { state with mayBeLazy := chain.head?.any (·.kind.isParagraph) } :=
        ⟨⟨matched.all, matched.nonempty⟩, matched.cur⟩
      exact soundAll_finishLine hr (ready_openBlocks hr (text.length + 1) 0 begun)
    | fenced inner =>
      rw [hd] at matched
      obtain ⟨sound, block, outer, rfl, fence⟩ := matched
      cases outer with
      | nil =>
        rw [sound.1.root rfl] at fence
        cases fence
      | cons around rest =>
        have plain := OpenKind.isCode_of_canContain (sound.1.fits around rfl)
        have before : line - 1 ≤ lines.length := Nat.le_trans (Nat.sub_le line 1) hr.le
        have closed := soundAll_closeHead hr.inside before sound
        exact (closed.later plain).mono (Nat.sub_le line 1)

theorem soundAll_readLines {texts : List (List Char)} (first : 0 < line)
    (read : ∀ i text, texts[i]? = some text → lines[line - 1 + i]? = some text)
    (h : SoundAll lines (line - 1) line chain) :
    SoundAll lines (line + texts.length - 1) (line + texts.length)
      (readLines chain line texts) := by
  induction texts generalizing chain line with
  | nil => exact h
  | cons text more ih =>
    have own : Reads lines line text := ⟨first, read 0 text rfl⟩
    have later := ih (Nat.succ_pos line) (fun i next hn => ?_) (soundAll_readLine own h)
    · rw [readLines, List.length_cons, ← Nat.add_assoc, Nat.add_right_comm]
      exact later
    · have place : line + 1 - 1 + i = line - 1 + (i + 1) := by omega
      rw [place]
      exact read (i + 1) next hn

end

theorem soundAll_start (lines : List (List Char)) :
    SoundAll lines 0 1 [{ kind := .document, firstLine := 1 }] :=
  ⟨⟨by nofun, fun _ => rfl, Nat.zero_lt_one, fun inner => absurd rfl inner, by nofun, by nofun,
    by nofun, by nofun⟩, trivial⟩

theorem origins (text : List Char) :
    ∀ block ∈ blocks text, block.Within (bodyLines (cleaned text)) ∧
      Marked (bodyLines (cleaned text)) [] block ∧ block.Literal (bodyLines (cleaned text)) := by
  have read := soundAll_readLines Nat.zero_lt_one
    (fun i line hl => by rwa [Nat.sub_self, Nat.zero_add])
    (soundAll_start (bodyLines (cleaned text)))
  intro block hb
  unfold blocks at hb
  dsimp only at hb
  generalize bodyLines (cleaned text) = lines at read hb ⊢
  generalize readLines [{ kind := .document, firstLine := 1 }] 1 lines = chain at read hb
  rw [Nat.add_sub_cancel_left] at read
  have closed := soundAll_closeHeads inside_atEnd (Nat.le_refl _) (chain.length - 1) read
  have single : (closeHeads (.atEnd lines.length) (chain.length - 1) chain).length ≤ 1 := by
    rcases List.eq_nil_or_concat chain with rfl | ⟨inner, document, rfl⟩
    · exact Nat.zero_le 1
    · have same := congrArg List.length
        (shape_closeHeads (.atEnd lines.length) inner (List.cons_ne_nil document []))
      rw [List.concat_eq_append, List.length_append, List.length_singleton, Nat.add_sub_cancel]
      simpa [shape] using Nat.le_of_eq same
  cases hd : closeHeads (.atEnd lines.length) (chain.length - 1) chain with
  | nil =>
    rw [hd] at hb
    cases hb
  | cons document outer =>
    rw [hd] at hb closed single
    obtain rfl : outer = [] := List.length_eq_zero_iff.1 (by simpa using single)
    have root := closed.1.root rfl
    have child := closed.1.children block (List.mem_reverse.1 hb)
    exact ⟨child.within, child.marked [] (by rw [enclosing?, root]; rfl), child.literal rfl⟩

end Markdown
end DocModel

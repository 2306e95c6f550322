import DocModel.Proofs.Markdown.Lines
import DocModel.Proofs.Markdown.Markers

/-!
# DocModel.Proofs.Markdown.Origins

Where the blocks of a text come from: they cover lines of the text, the lines of a code block are
lines of the text, and every item begins on a line with its marker. Items may begin on one line with
items around them; the markers of these come first.

* `Marked`, `Block.Within` and `Block.Literal` say this of finished blocks, and `OpenBlock.Sound` of
  a block that is open;
* `enclosing?` gives the lines on which the items around a place begin;
* `OpenBlock.Sound.finish` takes a sound block to a finished one, and `soundAll_closeHeads`,
  `soundAll_closeUnder` keep what holds of a chain of open blocks.
-/

namespace DocModel
namespace Markdown

/-! ## Finished blocks -/

/-- A line on which an item begins, inside items that begin on the lines `enclosing`: behind the
markers of those on the same line it has one more. -/
def MarkedLine (lines : List (List Char)) (enclosing : List Nat) (first : Nat) : Prop :=
  0 < first ∧
    ∃ line rest, lines[first - 1]? = some line ∧ AfterMarkers line (enclosing.count first + 1) rest

/-- All items of a block begin on lines with their markers, as far as they are reached through lists
and items only. -/
inductive Marked (lines : List (List Char)) : List Nat → Block → Prop where
  | item {enclosing : List Nat} {first last : Nat} {children : List Block}
    (own : MarkedLine lines enclosing first)
    (inner : ∀ child ∈ children, Marked lines (first :: enclosing) child) :
    Marked lines enclosing (.node .item first last children)
  | list {enclosing : List Nat} {first last : Nat} {children : List Block}
    (items : ∀ child ∈ children, child.kind = .item)
    (inner : ∀ child ∈ children, Marked lines enclosing child) :
    Marked lines enclosing (.node .list first last children)
  /-- Items inside other blocks do not matter. -/
  | other {enclosing : List Nat} {kind : BlockKind} {first last : Nat} {children : List Block}
    (item : kind ≠ .item) (list : kind ≠ .list) :
    Marked lines enclosing (.node kind first last children)

/-- A text is a line, but for blanks at its head. Lines count from zero. -/
def FromLine (lines : List (List Char)) (i : Nat) (text : List Char) : Prop :=
  ∃ line, lines[i]? = some line ∧ text.dropWhile isSpaceOrTab = line.dropWhile isSpaceOrTab

/-- A block covers lines of the text. -/
structure Block.Within (lines : List (List Char)) (block : Block) : Prop where
  first : 0 < block.firstLine
  last : block.lastLine ≤ lines.length

/-- The lines of a code block are the lines from its first on, or from the one behind its fence. -/
def Block.Literal (lines : List (List Char)) (block : Block) : Prop :=
  ∀ fenced info code, block.kind = .code fenced info code → ∀ i text, code[i]? = some text →
    FromLine lines ((if fenced then block.firstLine else block.firstLine - 1) + i) text

/-! ## Open blocks -/

namespace OpenKind

def isItem : OpenKind → Bool
  | .item _ => true
  | _ => false

def isList : OpenKind → Bool
  | .list _ => true
  | _ => false

def isFenced : OpenKind → Bool
  | .fenced _ _ _ => true
  | _ => false

def isCode : OpenKind → Bool
  | .fenced _ _ _ => true
  | .indented => true
  | _ => false

theorem isCode_of_canContain {outer inner : OpenKind} (h : outer.canContain inner = true) :
    outer.isCode = false := by
  cases outer <;> first | rfl | cases h

theorem isCode_of_isVerbatim {kind : OpenKind} (h : kind.isVerbatim = false) :
    kind.isCode = false := by
  cases kind <;> first | rfl | cases h

theorem isCode_of_isParagraph {kind : OpenKind} (h : kind.isParagraph = true) :
    kind.isCode = false := by
  cases kind <;> first | rfl | cases h

theorem canContain_of_paragraph {outer kind : OpenKind} {noTable : Bool}
    (h : outer.canContain (.paragraph noTable) = true) (item : kind.isItem = false) :
    outer.canContain kind = true := by
  cases outer <;> cases kind <;> first | rfl | (cases h; done) | cases item

theorem isItem_of_list {marker : ListMarker} {kind : OpenKind}
    (h : (OpenKind.list marker).canContain kind = true) : kind.isItem = true := by
  cases kind <;> first | rfl | cases h

theorem isList_of_canContain {outer inner : OpenKind} (h : outer.canContain inner = true)
    (list : outer.isList = true) : inner.isItem = true := by
  cases outer with
  | list marker => exact isItem_of_list h
  | _ => cases list

end OpenKind

/-- The lines on which the items around a place begin, innermost first, unless it is inside a
quotation. -/
def enclosing? : List OpenBlock → Option (List Nat)
  | [] => some []
  | block :: outer =>
    match block.kind with
    | .quote => none
    | .item _ => (enclosing? outer).map (block.firstLine :: ·)
    | _ => enclosing? outer

/-- What a finished block has to be inside an open one. -/
structure Child (lines : List (List Char)) (outer : List OpenBlock) (block : OpenBlock)
    (child : Block) : Prop where
  within : child.Within lines
  /-- Its items are marked, whatever items are around it. -/
  marked : ∀ enclosing, enclosing? (block :: outer) = some enclosing → Marked lines enclosing child
  item : block.kind.isList = true → child.kind = .item
  /-- In the document its lines are those of the text. -/
  literal : outer = [] → child.Literal lines

/-- The lines of an open code block, all of those from its first on before `line`. -/
structure OpenBlock.Copies (lines : List (List Char)) (line : Nat) (block : OpenBlock) : Prop where
  count : block.firstLine + block.lines.length = line
  /-- Each is the line of the text, but for the first one of a block with a fence. -/
  copied : ∀ i text, block.lines.reverse[i]? = some text → (block.kind.isFenced = true → 0 < i) →
    FromLine lines (block.firstLine - 1 + i) text

/-- What an open block is inside others, when the lines before `line` have been read and the latest
block has been opened on the line `opened` or before. -/
structure OpenBlock.Sound (lines : List (List Char)) (opened line : Nat) (outer : List OpenBlock)
    (block : OpenBlock) : Prop where
  /-- The block around it may hold it. -/
  fits : ∀ around ∈ outer.head?, around.kind.canContain block.kind = true
  root : outer = [] → block.kind = .document
  first : 0 < block.firstLine
  /-- That has been reached, unless the block is the document. -/
  opened : outer ≠ [] → block.firstLine ≤ opened
  /-- A paragraph takes at most the lines from its first on. -/
  paragraph : block.kind.isParagraph = true → block.firstLine + block.lines.length ≤ line
  /-- An item begins on a line with its marker. -/
  item : block.kind.isItem = true → ∀ enclosing, enclosing? outer = some enclosing →
    MarkedLine lines enclosing block.firstLine
  /-- A code block in the document copies lines. -/
  code : block.kind.isCode = true → outer.length = 1 → block.Copies lines line
  children : ∀ child ∈ block.children, Child lines outer block child

/-- What a chain of open blocks is. -/
def SoundAll (lines : List (List Char)) (opened line : Nat) : List OpenBlock → Prop
  | [] => True
  | block :: outer => block.Sound lines opened line outer ∧ SoundAll lines opened line outer

section

variable {lines : List (List Char)} {opened line : Nat} {chain outer : List OpenBlock}
  {block : OpenBlock}

/-- Which lines enclose a place depends on what the open blocks are and where they begin. -/
def shape (chain : List OpenBlock) : List (OpenKind × Nat) :=
  chain.map fun block => (block.kind, block.firstLine)

theorem enclosing?_of_shape {first second : List OpenBlock} (h : shape first = shape second) :
    enclosing? first = enclosing? second := by
  induction first generalizing second with
  | nil =>
    cases second with
    | nil => rfl
    | cons _ _ => cases h
  | cons block rest ih =>
    cases second with
    | nil => cases h
    | cons other more =>
      obtain ⟨heads, tails⟩ := List.cons.inj h
      obtain ⟨kind, place⟩ := Prod.mk.inj heads
      rw [enclosing?, enclosing?, kind, place, ih tails]

theorem SoundAll.of_append {first second : List OpenBlock}
    (h : SoundAll lines opened line (first ++ second)) : SoundAll lines opened line second := by
  induction first with
  | nil => exact h
  | cons block rest ih => exact ih h.2

theorem SoundAll.mono {later : Nat} (h : SoundAll lines opened line chain) (hl : opened ≤ later) :
    SoundAll lines later line chain := by
  induction chain with
  | nil => trivial
  | cons block rest ih =>
    exact ⟨{ h.1 with opened := fun inner => Nat.le_trans (h.1.opened inner) hl }, ih h.2⟩

/-- The items around a place begin on lines that have been reached. -/
theorem SoundAll.le_opened (h : SoundAll lines opened line chain) {enclosing : List Nat}
    (he : enclosing? chain = some enclosing) : ∀ first ∈ enclosing, first ≤ opened := by
  induction chain generalizing enclosing with
  | nil =>
    cases he
    intro first hf
    cases hf
  | cons block rest ih =>
    rw [enclosing?] at he
    split at he
    · cases he
    · next width item =>
      obtain ⟨inner, hi, rfl⟩ := Option.map_eq_some_iff.1 he
      intro first hf
      rcases List.mem_cons.1 hf with rfl | hf
      · refine h.1.opened fun top => ?_
        rw [h.1.root top] at item
        cases item
      · exact ih h.2 hi first hf
    · exact ih h.2 he

/-- A block that is no code block is as sound when one more line has been read without it. -/
theorem OpenBlock.Sound.later (h : block.Sound lines opened line outer)
    (code : block.kind.isCode = false) : block.Sound lines opened (line + 1) outer :=
  { h with
    paragraph := fun hp => Nat.le_succ_of_le (h.paragraph hp)
    code := fun hc => by rw [code] at hc; cases hc }

theorem SoundAll.later_tail (h : SoundAll lines opened line (block :: outer)) :
    SoundAll lines opened (line + 1) outer := by
  induction outer generalizing block with
  | nil => trivial
  | cons around rest ih =>
    have code := OpenKind.isCode_of_canContain (h.1.fits around rfl)
    exact ⟨h.2.1.later code, ih h.2⟩

theorem SoundAll.later (h : SoundAll lines opened line (block :: outer))
    (code : block.kind.isCode = false) : SoundAll lines opened (line + 1) (block :: outer) :=
  ⟨h.1.later code, h.later_tail⟩

theorem OpenBlock.Sound.addChildren (h : block.Sound lines opened line outer) {more : List Block}
    (hm : ∀ child ∈ more, Child lines outer block child) :
    OpenBlock.Sound lines opened line outer
      { block with children := more ++ block.children } := by
  refine ⟨h.fits, h.root, h.first, h.opened, h.paragraph, h.item, ?_, ?_⟩
  · intro hc ho
    obtain ⟨count, copied⟩ := h.code hc ho
    exact ⟨count, copied⟩
  · intro child hc
    have own : Child lines outer block child := by
      rcases List.mem_append.1 hc with hc | hc
      · exact hm child hc
      · exact h.children child hc
    exact ⟨own.within, own.marked, own.item, own.literal⟩

/-! ## Closing blocks -/

/-- A block ends on lines of the text. -/
def Closing.Inside (lines : List (List Char)) (closing : Closing) : Prop :=
  ∀ kind, closing.lastLine kind ≤ lines.length

theorem inside_onLine (h : line ≤ lines.length) : (Closing.onLine line).Inside lines := by
  intro kind
  cases kind <;> simp only [Closing.lastLine] <;> omega

theorem inside_atEnd : (Closing.atEnd lines.length).Inside lines := by
  intro kind
  cases kind <;> exact Nat.le_refl _

theorem OpenBlock.Copies.behindFence (h : block.Copies lines line) (begins : 0 < block.firstLine)
    {info : List Char} {code : List (List Char)} (cut : block.lines.reverse = info :: code)
    {i : Nat} {text : List Char} (ht : code[i]? = some text) :
    FromLine lines (block.firstLine + i) text := by
  have own := h.copied (i + 1) text (by rw [cut]; exact ht) fun _ => Nat.succ_pos i
  have place : block.firstLine - 1 + (i + 1) = block.firstLine + i := by omega
  rwa [place] at own

/-- Blank lines at the end of a code block without a fence are no part of it. -/
theorem OpenBlock.Copies.trimmed (h : block.Copies lines line) (fence : block.kind.isFenced = false)
    {i : Nat} {text : List Char}
    (ht : (block.lines.dropWhile onlySpaces).reverse[i]? = some text) :
    FromLine lines (block.firstLine - 1 + i) text := by
  obtain ⟨blank, cut⟩ : (block.lines.dropWhile onlySpaces).reverse <+: block.lines.reverse :=
    List.reverse_prefix.2 (List.dropWhile_suffix _)
  refine h.copied i text ?_ fun own => ?_
  · rw [← cut, List.getElem?_append_left (List.getElem?_eq_some_iff.1 ht).1, ht]
  · rw [fence] at own
    cases own

theorem OpenBlock.finish_paragraph {noTable : Bool} {first last : Nat} {own : List (List Char)}
    {children : List Block} {node : Block}
    (h : (OpenBlock.mk (.paragraph noTable) first own children).finish last = some node) :
    node = .node .paragraph first last children.reverse := by
  simp only [OpenBlock.finish] at h
  split at h
  · cases h
  · exact (Option.some.inj h).symm

/-- The first line of a fenced block is what stands behind the fence. -/
theorem OpenBlock.finish_fenced {mark : Char} {length indent first last : Nat}
    {own : List (List Char)} {children : List Block} {node : Block}
    (h : (OpenBlock.mk (.fenced mark length indent) first own children).finish last = some node) :
    ∃ info, node = .node (.code true info own.reverse.tail) first last children.reverse := by
  simp only [OpenBlock.finish] at h
  cases hr : own.reverse with
  | nil =>
    rw [hr] at h
    exact ⟨_, (Option.some.inj h).symm⟩
  | cons info code =>
    rw [hr] at h
    exact ⟨_, (Option.some.inj h).symm⟩

/-- A block that is finished is what it has to be in the block around it. -/
theorem OpenBlock.Sound.finish {around : OpenBlock}
    (h : block.Sound lines opened line (around :: outer)) {last : Nat} (hl : last ≤ lines.length)
    (ho : opened ≤ lines.length) {node : Block} (hn : block.finish last = some node) :
    Child lines outer around node := by
  obtain ⟨kind, first, own, children⟩ := block
  have within : ∀ kind children, Block.Within lines (.node kind first last children) := by
    intro kind children
    exact ⟨h.first, Nat.max_le.2 ⟨Nat.le_trans (h.opened (List.cons_ne_nil _ _)) ho, hl⟩⟩
  have fits := h.fits around rfl
  -- lists hold items only, and what is inside other blocks is not looked at
  have leaf : kind.isItem = false → ∀ other : BlockKind, other ≠ .item → other ≠ .list →
      (outer = [] → Block.Literal lines (.node other first last children.reverse)) →
      Child lines outer around (.node other first last children.reverse) := by
    intro item other notItem notList literal
    refine ⟨within _ _, fun enclosing _ => .other notItem notList, fun list => ?_, literal⟩
    rw [OpenKind.isList_of_canContain fits list] at item
    cases item
  cases kind with
  | document => cases hn
  | quote =>
    cases hn
    exact leaf rfl _ (by nofun) (by nofun) fun _ => by nofun
  | html kind =>
    cases hn
    exact leaf rfl _ (by nofun) (by nofun) fun _ => by nofun
  | rule =>
    cases hn
    exact leaf rfl _ (by nofun) (by nofun) fun _ => by nofun
  | table =>
    cases hn
    exact leaf rfl _ (by nofun) (by nofun) fun _ => by nofun
  | heading level =>
    cases hn
    exact leaf rfl _ (by nofun) (by nofun) fun _ => by nofun
  | paragraph noTable =>
    obtain rfl := OpenBlock.finish_paragraph hn
    exact leaf rfl _ (by nofun) (by nofun) fun _ => by nofun
  | list marker =>
    cases hn
    refine ⟨within _ _, fun enclosing he => .list ?_ ?_, fun list => ?_, fun _ => by nofun⟩
    · exact fun child hc => (h.children child (List.mem_reverse.1 hc)).item rfl
    · exact fun child hc => (h.children child (List.mem_reverse.1 hc)).marked enclosing he
    · cases OpenKind.isList_of_canContain fits list
  | item width =>
    cases hn
    refine ⟨within _ _, fun enclosing he => .item (h.item rfl enclosing he) fun child hc => ?_,
      fun _ => rfl, fun _ => by nofun⟩
    exact (h.children child (List.mem_reverse.1 hc)).marked _ (by rw [enclosing?, he]; rfl)
  | fenced mark length indent =>
    obtain ⟨info, rfl⟩ := OpenBlock.finish_fenced hn
    refine leaf rfl _ (by nofun) (by nofun) fun top fenced read rest hc i text ht => ?_
    cases hc
    cases hr : own.reverse with
    | nil =>
      rw [hr] at ht
      cases ht
    | cons info code =>
      rw [hr] at ht
      exact (h.code rfl (by rw [top]; rfl)).behindFence h.first hr ht
  | indented =>
    cases hn
    refine leaf rfl _ (by nofun) (by nofun) fun top fenced read rest hc i text ht => ?_
    cases hc
    exact (h.code rfl (by rw [top]; rfl)).trimmed rfl ht

theorem soundAll_closeHead {closing : Closing} (hc : closing.Inside lines)
    (ho : opened ≤ lines.length) (h : SoundAll lines opened line chain) :
    SoundAll lines opened line (closeHead closing chain) := by
  match chain, h with
  | [], h => exact h
  | [_], h => exact h
  | block :: around :: rest, h =>
    rw [closeHead]
    refine ⟨h.2.1.addChildren fun child hm => ?_, h.2.2⟩
    exact h.1.finish (hc block.kind) ho (Option.mem_toList.1 hm)

theorem soundAll_closeHeads {closing : Closing} (hc : closing.Inside lines)
    (ho : opened ≤ lines.length) (count : Nat) (h : SoundAll lines opened line chain) :
    SoundAll lines opened line (closeHeads closing count chain) :=
  closeHeads_preserves (fun _ sound => soundAll_closeHead hc ho sound) count h

theorem soundAll_closeUnder {closing : Closing} (hc : closing.Inside lines)
    (ho : opened ≤ lines.length) (kind : OpenKind) (count : Nat)
    (h : SoundAll lines opened line chain) :
    SoundAll lines opened line (closeUnder closing kind count chain) :=
  closeUnder_preserves (fun _ sound => soundAll_closeHead hc ho sound) kind count h

theorem shape_closeHead (closing : Closing) (block around : OpenBlock) (rest : List OpenBlock) :
    shape (closeHead closing (block :: around :: rest)) = shape (around :: rest) := rfl

/-- Closing the blocks inside a chain leaves it the same but for its children. -/
theorem shape_closeHeads (closing : Closing) (inner : List OpenBlock) (nonempty : chain ≠ []) :
    shape (closeHeads closing inner.length (inner ++ chain)) = shape chain := by
  have closed : ∀ inner first : List OpenBlock, shape first = shape (inner ++ chain) →
      shape (closeHeads closing inner.length first) = shape chain := by
    intro inner
    induction inner with
    | nil => exact fun _ h => h
    | cons block rest ih =>
      intro first hf
      have more : rest ++ chain ≠ [] := fun none => nonempty (List.append_eq_nil_iff.1 none).2
      obtain ⟨head, tail, cut⟩ := List.exists_cons_of_ne_nil more
      rw [List.cons_append, cut] at hf
      match first, hf with
      | [], hf => cases hf
      | [one], hf => cases (List.cons.inj hf).2
      | one :: two :: tails, hf =>
        refine ih _ ?_
        rw [shape_closeHead, cut]
        exact (List.cons.inj hf).2
  exact closed inner _ rfl

/-- What is closed to make place for a block is no item and no quotation. -/
theorem enclosing?_closeUnder (closing : Closing) {kind : OpenKind} (item : kind.isItem = false)
    (count : Nat) :
    enclosing? (closeUnder closing kind count chain) = enclosing? chain := by
  induction count generalizing chain with
  | zero => rfl
  | succ count ih =>
    match chain with
    | [] => rfl
    | [block] =>
      rw [closeUnder]
      split
      · rfl
      · exact ih
    | block :: around :: rest =>
      rw [closeUnder]
      split
      · rfl
      · next full =>
        rw [ih, enclosing?_of_shape (shape_closeHead closing block around rest)]
        obtain ⟨own, first, texts, children⟩ := block
        cases own with
        | quote => cases kind <;> first | exact absurd rfl full | cases item
        | item width => cases kind <;> first | exact absurd rfl full | cases item
        | _ => rfl

/-- In the end a block is left that has a place for the new one. -/
theorem canContain_closeUnder (closing : Closing) {kind : OpenKind} (item : kind.isItem = false)
    (h : SoundAll lines opened line chain) (hc : closing.Inside lines) (ho : opened ≤ lines.length)
    (nonempty : chain ≠ []) {count : Nat} (enough : chain.length ≤ count) :
    ∃ block outer, closeUnder closing kind count chain = block :: outer ∧
      block.kind.canContain kind = true := by
  induction count generalizing chain with
  | zero => exact absurd (List.length_eq_zero_iff.1 (Nat.le_zero.1 enough)) nonempty
  | succ count ih =>
    match chain, h with
    | [block], h =>
      have root := h.1.root rfl
      have room : block.kind.canContain kind = true := by
        rw [root]
        cases kind <;> first | rfl | cases item
      exact ⟨block, [], by rw [closeUnder, if_pos room], room⟩
    | block :: around :: rest, h =>
      rw [closeUnder]
      split
      · next room => exact ⟨block, around :: rest, rfl, room⟩
      · refine ih (soundAll_closeHead hc ho h) (by rw [closeHead]; exact List.cons_ne_nil _ _) ?_
        rw [closeHead]
        simp only [List.length_cons] at enough ⊢
        omega

end

end Markdown
end DocModel

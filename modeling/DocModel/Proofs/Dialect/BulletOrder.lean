import DocModel.Proofs.Dialect.LinesRead
import DocModel.Proofs.Markdown.Order

/-!
# DocModel.Proofs.Dialect.BulletOrder

The lines of bullets in the order of a document.

* `stopLines` are the lines where what a bullet defines has ended: those of the headings and of the
  outer bullets;
* `nested_between`: a bullet inside an outer one stands on its line or below, and before the next of
  these lines;
* `shows_bullet`: where returns are paired, there is a text on the line of each outer bullet.
-/

namespace DocModel
namespace Dialect

open Text Markdown

/-! ## Nodes in order -/

/-- The lines of a heading or of the bullets of a list. -/
def Block.stops (block : Block) : List Nat :=
  match block.content with
  | .heading _ _ => [block.startLine]
  | .list items => items.map (·.line)
  | _ => []

def stopLines (blocks : List Block) : List Nat := blocks.flatMap Block.stops

/-- The nodes that these lines are read off. -/
def stopsOf (node : Markdown.Block) : List Markdown.Block :=
  match node.kind with
  | .heading _ => [node]
  | .list => node.children
  | _ => []

theorem mem_stopsOf {node stop : Markdown.Block} (h : stop ∈ stopsOf node) :
    stop = node ∨ stop ∈ node.children := by
  rw [stopsOf] at h
  split at h
  · exact .inl (List.mem_singleton.1 h)
  · exact .inr h
  · cases h

theorem begins_of_mem_stopsOf {node stop : Markdown.Block} (h : stop ∈ stopsOf node) {n : Nat}
    (hn : stop.Begins n) : node.Begins n := by
  rcases mem_stopsOf h with rfl | inner
  · exact hn
  · obtain ⟨kind, first, last, children⟩ := node
    exact .inside inner hn

theorem le_of_mem_stopsOf {node stop : Markdown.Block} (inOrder : node.InOrder)
    (h : stop ∈ stopsOf node) : node.firstLine ≤ stop.firstLine := by
  rcases mem_stopsOf h with rfl | inner
  · exact Nat.le_refl _
  · cases inOrder with
    | node behind _ _ => exact behind stop inner

/-- All that begins in one of these nodes does so before the next one. -/
theorem pairwise_stopsOf {nodes : List Markdown.Block} (apart : nodes.Pairwise Block.Before)
    (inOrder : ∀ node ∈ nodes, node.InOrder) :
    (nodes.flatMap stopsOf).Pairwise Block.Before := by
  refine List.pairwise_flatMap.2 ⟨fun node hm => ?_, apart.imp_of_mem ?_⟩
  · have inner := inOrder node hm
    rw [stopsOf]
    split
    · exact List.pairwise_singleton _ _
    · cases inner with
      | node _ apart _ => exact apart
    · exact .nil
  · intro first second _ hs before stop hf next hn n begins
    have earlier := before n (begins_of_mem_stopsOf hf begins)
    exact Nat.lt_of_lt_of_le earlier (le_of_mem_stopsOf (inOrder second hs) hn)

theorem pairwise_cases {α : Type} {r : α → α → Prop} {items : List α} (h : items.Pairwise r)
    {a b : α} (ha : a ∈ items) (hb : b ∈ items) : a = b ∨ r a b ∨ r b a := by
  induction h with
  | nil => cases ha
  | cons first _ ih =>
    rcases List.mem_cons.1 ha with rfl | later <;> rcases List.mem_cons.1 hb with rfl | behind
    · exact .inl rfl
    · exact .inr (.inl (first b behind))
    · exact .inr (.inr (first a later))
    · exact ih later behind

/-- What begins in a node does so before every one of them that begins further down. -/
theorem before_of_lt {nodes : List Markdown.Block} (apart : nodes.Pairwise Block.Before)
    {node stop : Markdown.Block} (hn : node ∈ nodes) (hs : stop ∈ nodes)
    (later : node.firstLine < stop.firstLine) : node.Before stop := by
  rcases pairwise_cases apart hn hs with rfl | before | after
  · exact absurd later (Nat.lt_irrefl _)
  · exact before
  · obtain ⟨kind, first, last, children⟩ := stop
    have earlier := after first (.own kind first last children)
    exact absurd later (Nat.lt_asymm earlier)

/-! ## Bullets -/

section

variable {table : LineTable} {offset : Nat}

/-- The bullet that is read off an item. -/
def bulletOf (table : LineTable) (offset : Nat) (node : Markdown.Block) : ListItem :=
  bulletAt table offset node.firstLine (nestedItems table offset node.children)

theorem itemsOf_eq_map (nodes : List Markdown.Block) :
    itemsOf table offset nodes = nodes.map (bulletOf table offset) := by
  induction nodes with
  | nil => rw [itemsOf, List.map_nil]
  | cons node rest ih =>
    obtain ⟨kind, first, last, children⟩ := node
    rw [itemsOf, ih]
    rfl

/-- A bullet inside another one is read off an item of a list inside. -/
theorem mem_nestedItems {nodes : List Markdown.Block} {child : ListItem}
    (h : child ∈ nestedItems table offset nodes) :
    ∃ list ∈ nodes, list.kind = .list ∧ ∃ node ∈ list.children,
      child = bulletOf table offset node := by
  induction nodes with
  | nil =>
    rw [nestedItems] at h
    cases h
  | cons node rest ih =>
    obtain ⟨kind, first, last, children⟩ := node
    by_cases hk : kind = .list
    · subst hk
      rw [nestedItems_list, itemsOf_eq_map] at h
      rcases List.mem_append.1 h with h | h
      · obtain ⟨inner, hi, rfl⟩ := List.mem_map.1 h
        exact ⟨_, List.mem_cons_self, rfl, inner, hi, rfl⟩
      · obtain ⟨list, hl, own⟩ := ih h
        exact ⟨list, List.mem_cons_of_mem _ hl, own⟩
    · rw [nestedItems_other table offset hk] at h
      obtain ⟨list, hl, own⟩ := ih h
      exact ⟨list, List.mem_cons_of_mem _ hl, own⟩

theorem stops_ofMarkdown (node : Markdown.Block) :
    (Block.ofMarkdown table offset node).stops =
      (stopsOf node).map (·.firstLine + offset) := by
  obtain ⟨kind, first, last, children⟩ := node
  cases kind with
  | list =>
    simp only [Block.stops, Block.ofMarkdown, Markdown.Block.kind, Markdown.Block.children,
      stopsOf, itemsOf_eq_map, List.map_map]
    rfl
  | _ => rfl

theorem stopLines_blocksOf (body : List Char) :
    stopLines (blocksOf table offset body) =
      ((blocks body).flatMap stopsOf).map (·.firstLine + offset) := by
  simp only [stopLines, blocksOf, List.flatMap_map, List.map_flatMap, stops_ofMarkdown]

end

/-! ## Documents -/

section

variable {source : List Char} {document : Document} {block : Block} {items : List ListItem}
  {item child : ListItem}

/-- The outer bullets of a document are read off items of its lists. -/
theorem exists_node (h : Document.ofSource source = .ok document) (hb : block ∈ document.blocks)
    (hl : block.content = .list items) (hi : item ∈ items) :
    ∃ parts, partsOf source = .ok parts ∧
      document.blocks = blocksOf (LineTable.ofSource source) parts.offset parts.body ∧
      ∃ list ∈ blocks parts.body, list.kind = .list ∧ ∃ node ∈ list.children,
        item = bulletOf (LineTable.ofSource source) parts.offset node := by
  obtain ⟨parts, hp, same⟩ := blocks_ofSource h
  refine ⟨parts, hp, same, ?_⟩
  rw [same, blocksOf] at hb
  obtain ⟨list, hm, rfl⟩ := List.mem_map.1 hb
  obtain ⟨kind, first, last, children⟩ := list
  cases kind with
  | list =>
    cases hl
    rw [itemsOf_eq_map] at hi
    obtain ⟨node, hn, rfl⟩ := List.mem_map.1 hi
    exact ⟨_, hm, rfl, node, hn, rfl⟩
  | _ => cases hl

/-- A bullet inside an outer one stands between that one and the next heading or outer bullet. -/
theorem nested_between (h : Document.ofSource source = .ok document)
    (hb : block ∈ document.blocks) (hl : block.content = .list items) (hi : item ∈ items)
    (hc : child ∈ item.children) :
    item.line ≤ child.line ∧ ∀ stop ∈ stopLines document.blocks, item.line < stop →
      child.line < stop := by
  obtain ⟨parts, -, same, list, hm, hk, node, hn, rfl⟩ := exists_node h hb hl hi
  obtain ⟨inner, hin, -, own, ho, rfl⟩ := mem_nestedItems hc
  obtain ⟨apart, inOrder⟩ := inOrder_blocks parts.body
  have outer : node ∈ (blocks parts.body).flatMap stopsOf := by
    refine List.mem_flatMap.2 ⟨list, hm, ?_⟩
    rw [stopsOf, hk]
    exact hn
  have ordered : node.InOrder := by
    have all := inOrder list hm
    cases all with
    | node _ _ each => exact each node hn
  have begins : node.Begins own.firstLine := by
    obtain ⟨kind, first, last, children⟩ := node
    obtain ⟨listKind, listFirst, listLast, listChildren⟩ := inner
    obtain ⟨ownKind, ownFirst, ownLast, ownChildren⟩ := own
    exact .inside hin (.inside ho (.own _ _ _ _))
  refine ⟨Nat.add_le_add_right (ordered.le begins) parts.offset, fun stop hs later => ?_⟩
  rw [same, stopLines_blocksOf] at hs
  obtain ⟨next, hnext, rfl⟩ := List.mem_map.1 hs
  have behind : node.firstLine < next.firstLine := Nat.lt_of_add_lt_add_right later
  have before := before_of_lt (pairwise_stopsOf apart inOrder) outer hnext behind
  exact Nat.add_lt_add_right (before _ begins) parts.offset

theorem textOf_ne_nil {parts : Parts} {enclosing : List Nat} {first : Nat}
    (shown : AllShown (LineTable.ofSource source) parts)
    (h : MarkedLine (bodyLines (cleaned parts.body)) enclosing first) :
    (LineTable.ofSource source).textOf (first + parts.offset) ≠ [] := by
  obtain ⟨begins, seen, rest, read, behind⟩ := h
  obtain ⟨line, own, rfl⟩ := shown_of_clean shown begins read
  rw [own.stands]
  intro empty
  obtain rfl := (List.append_eq_nil_iff.1 empty).2
  have marks := solid_afterMarkers behind
  simp [cleanLine, solid] at marks

theorem marked_child {lines : List (List Char)} {enclosing : List Nat}
    {list node : Markdown.Block} (h : Marked lines enclosing list) (hk : list.kind = .list)
    (hn : node ∈ list.children) : MarkedLine lines enclosing node.firstLine := by
  cases h with
  | item => cases hk
  | other _ notList => exact absurd hk notList
  | list items inner =>
    have kind := items node hn
    cases inner node hn with
    | item own _ => exact own
    | list => cases kind
    | other notItem => exact absurd kind notItem

/-- An outer bullet stands on a line of the body with its marker. -/
theorem marked_bullet (h : Document.ofSource source = .ok document)
    (hb : block ∈ document.blocks) (hl : block.content = .list items) (hi : item ∈ items) :
    ∃ parts first, partsOf source = .ok parts ∧ item.line = first + parts.offset ∧
      MarkedLine (bodyLines (cleaned parts.body)) [] first := by
  obtain ⟨parts, hp, -, list, hm, hk, node, hn, rfl⟩ := exists_node h hb hl hi
  exact ⟨parts, _, hp, rfl, marked_child (origins parts.body list hm).2.1 hk hn⟩

theorem line_pos (h : Document.ofSource source = .ok document)
    (hb : block ∈ document.blocks) (hl : block.content = .list items) (hi : item ∈ items) :
    0 < item.line := by
  obtain ⟨parts, first, -, line, positive, -⟩ := marked_bullet h hb hl hi
  rw [line]
  exact Nat.lt_of_lt_of_le positive (Nat.le_add_right first _)

theorem shows_bullet (h : Document.ofSource source = .ok document)
    (paired : ∀ parts, partsOf source = .ok parts → pairedReturns parts.body = true)
    (hb : block ∈ document.blocks) (hl : block.content = .list items) (hi : item ∈ items) :
    (LineTable.ofSource source).textOf item.line ≠ [] := by
  obtain ⟨parts, first, hp, line, marked⟩ := marked_bullet h hb hl hi
  rw [line]
  exact textOf_ne_nil ((textOf_body_iff hp).2 (paired parts hp)) marked

end

end Dialect
end DocModel

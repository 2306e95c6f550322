import DocModel.Proofs.Dialect.BulletOrder
import DocModel.Proofs.Dialect.Faults
import DocModel.Proofs.Source.Slices
import DocModel.Proofs.Validation.TypeFindings

/-!
# DocModel.Proofs.Dialect.Positions

Every position that is kept of a document denotes what one of its lines shows.

* `numbered_blocks`: the blocks, bullets and code lines of a document have numbers from one on.
* `onLines_takeOption` is the step: what is read off a bullet has the position of a line.
* `onLines_ofDocument` says so of a whole reading, `positions_denote_lines` what that means.
-/

namespace DocModel

open Text Markdown

namespace Markdown

/-- Whatever begins in a block does so on a line, counted from one. -/
def Block.Numbered (block : Block) : Prop := ∀ n, block.Begins n → 0 < n

theorem numbered_block {text : List Char} {block : Block} (h : block ∈ blocks text) :
    block.Numbered := by
  intro n hn
  have first := (origins text block h).1.first
  exact Nat.lt_of_lt_of_le first (((inOrder_blocks text).2 block h).le hn)

theorem Block.Numbered.own {block : Block} (h : block.Numbered) : 0 < block.firstLine := by
  obtain ⟨kind, first, last, children⟩ := block
  exact h first (.own kind first last children)

theorem Block.Numbered.child {block child : Block} (h : block.Numbered)
    (hc : child ∈ block.children) : child.Numbered := by
  obtain ⟨kind, first, last, children⟩ := block
  exact fun n hn => h n (.inside hc hn)

end Markdown

namespace Dialect

/-! ## Numbers of lines -/

/-- A bullet and those nested in it have numbers from one on. -/
inductive ListItem.Numbered : ListItem → Prop where
  | mk {text : String} {line : Nat} {children : List ListItem} : 0 < line →
      (∀ child ∈ children, child.Numbered) → Numbered (.mk text line children)

theorem ListItem.Numbered.line {item : ListItem} (h : item.Numbered) : 0 < item.line := by
  cases h with
  | mk own _ => exact own

theorem ListItem.Numbered.child {item child : ListItem} (h : item.Numbered)
    (hc : child ∈ item.children) : child.Numbered := by
  cases h with
  | mk _ inner => exact inner child hc

/-- The lines of a block that positions are taken from have numbers from one on. -/
structure Block.Numbered (block : Block) : Prop where
  start : 0 < block.startLine
  items : ∀ items, block.content = .list items → ∀ item ∈ items, item.Numbered
  code : ∀ info lines, block.content = .code info lines → ∀ line ∈ lines, 0 < line.1

section

variable {table : LineTable} {offset : Nat}

mutual

theorem numbered_itemsOf : ∀ nodes : List Markdown.Block, (∀ node ∈ nodes, node.Numbered) →
    ∀ item ∈ itemsOf table offset nodes, item.Numbered
  | [], _, item, hi => by rw [itemsOf] at hi; cases hi
  | .node kind first last children :: more, h, item, hi => by
    have own := h _ List.mem_cons_self
    rw [itemsOf] at hi
    rcases List.mem_cons.1 hi with rfl | hi
    · exact .mk (Nat.lt_of_lt_of_le own.own (Nat.le_add_right first offset))
        (numbered_nestedItems children fun child hc => own.child hc)
    · exact numbered_itemsOf more (fun node hm => h node (List.mem_cons_of_mem _ hm)) item hi

theorem numbered_nestedItems : ∀ nodes : List Markdown.Block, (∀ node ∈ nodes, node.Numbered) →
    ∀ item ∈ nestedItems table offset nodes, item.Numbered
  | [], _, item, hi => by rw [nestedItems] at hi; cases hi
  | .node kind first last children :: more, h, item, hi => by
    have own := h _ List.mem_cons_self
    have inner := numbered_itemsOf children fun child hc => own.child hc
    have rest := numbered_nestedItems more fun node hm => h node (List.mem_cons_of_mem _ hm)
    by_cases hk : kind = .list
    · subst hk
      rw [nestedItems_list] at hi
      exact (List.mem_append.1 hi).elim (inner item) (rest item)
    · rw [nestedItems_other _ _ hk] at hi
      exact rest item hi

end

theorem numbered_ofMarkdown {node : Markdown.Block} (h : node.Numbered) :
    (Block.ofMarkdown table offset node).Numbered := by
  have start : 0 < node.firstLine + offset :=
    Nat.lt_of_lt_of_le h.own (Nat.le_add_right _ offset)
  obtain ⟨kind, first, last, children⟩ := node
  refine ⟨start, fun items hl => ?_, fun info lines hl line hm => ?_⟩
  · cases kind with
    | list =>
      cases hl
      exact numbered_itemsOf children fun child hc => h.child hc
    | _ => cases hl
  · cases kind with
    | code fenced own code =>
      cases hl
      obtain ⟨⟨text, i⟩, -, rfl⟩ := List.mem_map.1 hm
      -- code between fences begins behind the first of them
      refine Nat.lt_of_lt_of_le ?_ (Nat.le_add_right _ i)
      split
      · exact Nat.succ_pos _
      · exact start
    | _ => cases hl

theorem numbered_blocks {source : List Char} {document : Document}
    (h : Document.ofSource source = .ok document) : ∀ block ∈ document.blocks, block.Numbered := by
  obtain ⟨parts, -, same⟩ := blocks_ofSource h
  intro block hb
  rw [same] at hb
  obtain ⟨node, hn, rfl⟩ := List.mem_map.1 hb
  exact numbered_ofMarkdown (numbered_block hn)

/-- The lines that belong to a heading have numbers from one on. -/
structure Heading.Numbered (h : Heading) : Prop where
  line : 0 < h.line
  items : ∀ item ∈ h.items, item.Numbered
  codeLines : ∀ line ∈ h.codeLines, 0 < line.1

theorem numbered_heading {blocks : List Block} (hb : ∀ block ∈ blocks, block.Numbered)
    {h : Heading} (hh : h ∈ headingsOf blocks) : h.Numbered := by
  obtain ⟨⟨first, hf, start⟩, body⟩ := blocks_of_heading hh
  refine ⟨start ▸ (hb first hf).start, fun item hi => ?_, fun line hl => ?_⟩
  · obtain ⟨block, mem, items, listed, own⟩ := list_of_heading hh hi
    exact (hb block mem).items items listed item own
  · obtain ⟨lines, hc, own⟩ := List.mem_flatten.1 hl
    obtain ⟨block, mem, coded⟩ := List.mem_filterMap.1 hc
    unfold Block.code? at coded
    split at coded
    · next info _ content =>
      cases coded
      exact (hb block (body block mem)).code info lines content line own
    · cases coded

end

/-! ## Positions -/

/-- The positions of lines of a document, whatever is read off these. -/
def OnLines (table : LineTable) (positions : List SourcePosition) : Prop :=
  ∀ p ∈ positions, ∃ n, 0 < n ∧ p = table.positionOf n

/-- The positions that a reading keeps: those of its model, and those of diagnostics. -/
def Reading.positions (reading : Reading) : List SourcePosition :=
  reading.model.positions ++ reading.diagnostics.map (·.position)

section

variable {table : LineTable} {definition : String}

theorem OnLines.append {first second : List SourcePosition} (hf : OnLines table first)
    (hs : OnLines table second) : OnLines table (first ++ second) := by
  intro p hp
  exact (List.mem_append.1 hp).elim (hf p) (hs p)

theorem onLines_single {n : Nat} (h : 0 < n) : OnLines table [table.positionOf n] := by
  intro p hp
  exact ⟨n, h, List.mem_singleton.1 hp⟩

theorem onLines_map {α : Type} {items : List α} {line : α → Nat}
    (h : ∀ item ∈ items, 0 < line item) :
    OnLines table (items.map fun item => table.positionOf (line item)) := by
  intro p hp
  obtain ⟨item, hi, rfl⟩ := List.mem_map.1 hp
  exact ⟨line item, h item hi, rfl⟩

/-- A bullet changes the position of a type or a term at most, to its own. -/
theorem ChangedBy.positions {key value : String} {place : SourcePosition} {a b : Attribute}
    (h : ChangedBy key value place a b) : ∀ p ∈ b.positions, p ∈ a.positions ∨ p = place := by
  have types : ∀ p ∈ b.typePosition, p ∈ a.typePosition ∨ p = place := by
    have own := h.types
    split at own
    · rw [own.2.2]
      cases a.typePosition with
      | none => exact fun p hp => .inr (Option.some.inj hp).symm
      | some first => exact fun p hp => .inl hp
    · rw [own.2.2]
      exact fun p hp => .inl hp
  have term : ∀ p ∈ b.termPosition, p ∈ a.termPosition ∨ p = place := by
    have own := h.term
    split at own
    · rw [own.2]
      exact fun p hp => .inr (Option.some.inj hp).symm
    · rw [own.2]
      exact fun p hp => .inl hp
  intro p hp
  simp only [Attribute.positions, List.mem_cons, List.mem_append, Option.mem_toList] at hp ⊢
  rcases hp with rfl | hp | hp
  · exact .inl (.inl h.position)
  · exact (types p hp).imp_left fun same => .inr (.inl same)
  · exact (term p hp).imp_left fun same => .inr (.inr same)

/-- A nested bullet leaves positions of lines, in the attribute and in what is reported. -/
theorem onLines_takeOption {a : Attribute} {item : ListItem} (ha : OnLines table a.positions)
    (hi : item.Numbered) :
    OnLines table (takeOption table definition a item).1.positions ∧
      OnLines table ((takeOption table definition a item).2.map (·.position)) := by
  obtain ⟨b, inner, own, taken, read⟩ := @optionRead table definition a item
  have nested : OnLines table (inner.map (·.position)) := by
    rw [read.nested]
    exact onLines_map fun child hc => (hi.child hc).line
  rw [taken, List.map_append]
  by_cases rejected : Rejected item.text
  · obtain ⟨rfl, place⟩ := read.rejected rejected
    refine ⟨ha, nested.append ?_⟩
    rw [place]
    exact onLines_single hi.line
  · obtain ⟨rfl, key, value, -, changed⟩ := read.accepted rejected
    refine ⟨fun p hp => ?_, nested.append nofun⟩
    rcases changed.positions p hp with same | rfl
    · exact ha p same
    · exact ⟨_, hi.line, rfl⟩

theorem onLines_takeOptions {a : Attribute} {items : List ListItem}
    (ha : OnLines table a.positions) (hi : ∀ item ∈ items, item.Numbered) :
    OnLines table (takeOptions table definition a items).1.positions ∧
      OnLines table ((takeOptions table definition a items).2.map (·.position)) := by
  induction items generalizing a with
  | nil => exact ⟨ha, nofun⟩
  | cons item rest ih =>
    obtain ⟨changed, reported⟩ :=
      @onLines_takeOption table definition a item ha (hi item List.mem_cons_self)
    obtain ⟨result, more⟩ := ih changed fun other ho => hi other (List.mem_cons_of_mem _ ho)
    rw [takeOptions, List.map_append]
    exact ⟨result, reported.append more⟩

theorem onLines_readAttribute {item : ListItem} (hi : item.Numbered) :
    OnLines table ((readAttribute table definition item).1.toList.flatMap (·.positions)) ∧
      OnLines table ((readAttribute table definition item).2.map (·.position)) := by
  cases named : item.text.isEmpty with
  | true =>
    rw [readAttribute_empty named]
    exact ⟨nofun, onLines_single hi.line⟩
  | false =>
    rw [readAttribute_named named, Option.toList_some, List.flatMap_singleton]
    exact onLines_takeOptions (onLines_single hi.line) fun child hc => hi.child hc

theorem onLines_readAttributes {items : List ListItem} (hi : ∀ item ∈ items, item.Numbered) :
    OnLines table ((readAttributes table definition items).1.flatMap (·.positions)) ∧
      OnLines table ((readAttributes table definition items).2.map (·.position)) := by
  induction items with
  | nil => exact ⟨nofun, nofun⟩
  | cons item rest ih =>
    obtain ⟨own, reported⟩ :=
      @onLines_readAttribute table definition item (hi item List.mem_cons_self)
    obtain ⟨later, more⟩ := ih fun other ho => hi other (List.mem_cons_of_mem _ ho)
    rw [readAttributes, List.flatMap_append, List.map_append]
    exact ⟨own.append later, reported.append more⟩

theorem Reported.onLines {before lines : List (Nat × String)} {diagnostics : List Diagnostic}
    (h : Reported table before lines diagnostics) (hl : ∀ line ∈ lines, 0 < line.1) :
    OnLines table (diagnostics.map (·.position)) := by
  induction h with
  | done => exact nofun
  | report _ place _ ih =>
    have later := ih fun line hm => hl line (List.mem_cons_of_mem _ hm)
    have own := @onLines_single table _ (hl _ List.mem_cons_self)
    rw [← place] at own
    exact own.append later
  | silent _ _ ih => exact ih fun line hm => hl line (List.mem_cons_of_mem _ hm)

/-! ## Documents -/

theorem onLines_object {h : Heading} {o : Object} (hh : h.Numbered)
    (defines : DefinesObject table h o) :
    OnLines table (o.position :: o.attributes.flatMap (·.positions)) := by
  intro p hp
  rcases List.mem_cons.1 hp with rfl | hp
  · exact ⟨h.line, hh.line, defines.position⟩
  · obtain ⟨a, ha, own⟩ := List.mem_flatMap.1 hp
    obtain ⟨item, hi, given⟩ := exists_of_forall₂ defines.attributes ha
    obtain ⟨b, read, marked⟩ := given.read
    have placed := (@onLines_readAttribute table h.name item
      (hh.items item (List.mem_of_mem_filter hi))).1
    rw [read, Option.toList_some, List.flatMap_singleton] at placed
    -- whether a type is an enumeration has no place
    rw [marked] at own
    exact placed p own

theorem onLines_ofSection {h : Heading} (hh : h.Numbered) :
    OnLines table ((Definition.ofSection table h.toSection).2.map (·.position)) := by
  rw [Definition.ofSection]
  split
  · have reported : Reported table [] h.codeLines (readEnumeration table h.toSection).2 := by
      simp only [readEnumeration, h.codeLines_toSection, h.name_toSection]
      exact (readMembers_spec firstOf_empty).2
    exact reported.onLines hh.codeLines
  · simp only [readObject, h.items_toSection, h.name_toSection]
    exact (onLines_readAttributes hh.items).2

theorem onLines_ofDocument {document : Document}
    (h : ∀ heading ∈ headingsOf document.blocks, heading.Numbered) :
    OnLines table (Reading.ofDocument table document).positions := by
  have grouped := @grouped_ofDocument table document
  refine .append (.append ?objects ?enums) ?diagnostics
  case objects =>
    intro p hp
    obtain ⟨o, ho, own⟩ := List.mem_flatMap.1 hp
    obtain ⟨heading, hh, defines⟩ := exists_of_forall₂ grouped.objects ho
    exact onLines_object (h heading (List.mem_of_mem_filter hh)) defines p own
  case enums =>
    intro p hp
    obtain ⟨e, he, rfl⟩ := List.mem_map.1 hp
    obtain ⟨heading, hh, defines⟩ := exists_of_forall₂ grouped.enums he
    exact ⟨heading.line, (h heading (List.mem_of_mem_filter hh)).line, defines.position⟩
  case diagnostics =>
    intro p hp
    obtain ⟨d, hd, rfl⟩ := List.mem_map.1 hp
    simp only [Reading.ofDocument, sectionsOf_eq, List.map_map, List.flatMap_map] at hd
    obtain ⟨heading, hh, own⟩ := List.mem_flatMap.1 hd
    exact onLines_ofSection (h heading hh) _ (List.mem_map_of_mem own)

end

theorem onLines_parse {source : String} {reading : Reading} (h : parse source = .ok reading) :
    OnLines (LineTable.ofSource source.toList) reading.positions := by
  obtain ⟨document, read, rfl⟩ := document_of_parse h
  exact onLines_ofDocument fun heading hh => numbered_heading (numbered_blocks read) hh

/-- A position denotes what its line shows: the line without the white space at its ends. -/
structure DenotesLine (source : List Char) (p : SourcePosition) : Prop where
  numbered : 1 ≤ p.line
  /-- The bytes are in the text, in order, and between characters. -/
  range : ValidRange source p.offset
  shown : slice? source p.offset = some (trim ((LineTable.ofSource source).textOf p.line))
  /-- Before the column are the characters of the line that stand before its bytes. -/
  column : ∃ indent, slice? source ⟨byteLength (linesBefore source p.line), p.offset.start⟩ =
    some indent ∧ p.column.start = 1 + indent.length
  width : p.column.stop =
    p.column.start + (trim ((LineTable.ofSource source).textOf p.line)).length

theorem denotesLine_positionOf (source : List Char) {n : Nat} (h : 0 < n) :
    DenotesLine source ((LineTable.ofSource source).positionOf n) := by
  have place := positionOf_eq (LineTable.ofSource source) n
  have line : ((LineTable.ofSource source).positionOf n).line = n := rfl
  refine ⟨h, validRange_of_slice? (slice?_positionOf source n), slice?_positionOf source n,
    ⟨_, slice?_indent source n, ?_⟩, ?_⟩
  · rw [place, Nat.add_comm]
  · rw [line, place, List.length_append]
    exact Nat.add_right_comm _ _ 1

/-- Each position that is kept of a text denotes what its line shows. -/
theorem positions_denote_lines {source : String} {reading : Reading}
    (h : parse source = .ok reading) :
    ∀ p ∈ reading.positions, DenotesLine source.toList p := by
  intro p hp
  obtain ⟨n, positive, rfl⟩ := onLines_parse h p hp
  exact denotesLine_positionOf _ positive

/-- Wide characters and white space, an indented heading, both ends of lines, and each
diagnostic. -/
def wideLines : String :=
  "---\nid: ü\n---\r\n ### Größe \u3000\r\n- wert\n  - Type: string\r\n  - Term : ö:x\n  - bad\n" ++
    "- \n\n### Art\n```\n\u3000é e\n```\n"

theorem wideLines_positions : ∃ reading, parse wideLines = .ok reading ∧
    reading.positions =
      [⟨4, ⟨2, 11⟩, ⟨17, 28⟩⟩, ⟨5, ⟨1, 7⟩, ⟨34, 40⟩⟩, ⟨6, ⟨3, 17⟩, ⟨43, 57⟩⟩,
        ⟨7, ⟨3, 15⟩, ⟨61, 74⟩⟩, ⟨11, ⟨1, 8⟩, ⟨87, 94⟩⟩, ⟨8, ⟨3, 8⟩, ⟨77, 82⟩⟩,
        ⟨9, ⟨1, 2⟩, ⟨83, 84⟩⟩, ⟨13, ⟨2, 5⟩, ⟨102, 106⟩⟩] ∧
    ∀ p ∈ reading.positions, DenotesLine wideLines.toList p := by
  have positions : (parse wideLines).map Reading.positions =
      .ok [⟨4, ⟨2, 11⟩, ⟨17, 28⟩⟩, ⟨5, ⟨1, 7⟩, ⟨34, 40⟩⟩, ⟨6, ⟨3, 17⟩, ⟨43, 57⟩⟩,
        ⟨7, ⟨3, 15⟩, ⟨61, 74⟩⟩, ⟨11, ⟨1, 8⟩, ⟨87, 94⟩⟩, ⟨8, ⟨3, 8⟩, ⟨77, 82⟩⟩,
        ⟨9, ⟨1, 2⟩, ⟨83, 84⟩⟩, ⟨13, ⟨2, 5⟩, ⟨102, 106⟩⟩] := by decide +kernel
  cases read : parse wideLines with
  | error error =>
    rw [read] at positions
    cases positions
  | ok reading =>
    rw [read] at positions
    exact ⟨reading, rfl, Except.ok.inj positions, positions_denote_lines read⟩

end Dialect
end DocModel

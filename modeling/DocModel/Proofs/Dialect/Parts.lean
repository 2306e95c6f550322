import DocModel.Dialect.Section
import DocModel.Proofs.Dialect.OpenList
import DocModel.Proofs.Source.Lines

/-!
# DocModel.Proofs.Dialect.Parts

A document made of parts: a heading, a description, and a list or a code block, with an empty line
before each of them. `Part.blocks` says which blocks the dialect sees in a part.

* `Block.gist` drops the places that no section depends on;
* `Ends` says what has been read when a part ends, whether more follows or not;
* `ends_parts` reads one part after the other.
-/

namespace DocModel
namespace Dialect

open Markdown Text

/-! ## What sections depend on -/

/-- A block without the places that play no role for sections. -/
def Block.gist (block : Block) : Block :=
  match block.content with
  | .heading _ _ => { block with endLine := 0 }
  | content => { content, startLine := 0, endLine := 0 }

theorem gist_content (block : Block) : block.gist.content = block.content := by
  unfold Block.gist
  split <;> simp_all

theorem add_gist (s : Section) (block : Block) : s.add block.gist = s.add block := by
  rw [Section.add, Section.add, gist_content]

theorem sectionsAfter_gist (current : Option Section) (blocks : List Block) :
    sectionsAfter current (blocks.map Block.gist) = sectionsAfter current blocks := by
  induction blocks generalizing current with
  | nil => rfl
  | cons block rest ih =>
    rw [List.map_cons, sectionsAfter.eq_def, sectionsAfter.eq_def]
    simp only [gist_content]
    split
    · rw [ih]
    · next name heading =>
      have line : block.gist.startLine = block.startLine := by rw [Block.gist, heading]
      rw [ih, line]
    · have same : (fun s : Section => s.add block.gist) = fun s => s.add block :=
        funext fun s => add_gist s block
      rw [ih, same]

theorem titleOf_gist (blocks : List Block) : titleOf (blocks.map Block.gist) = titleOf blocks := by
  simp only [titleOf, List.findSome?_map, Function.comp_def, gist_content]

/-- What the dialect sees of finished blocks. -/
def seenOf (table : LineTable) (offset : Nat) (blocks : List Markdown.Block) : List Block :=
  blocks.map fun block => (Block.ofMarkdown table offset block).gist

theorem seenOf_append (table : LineTable) (offset : Nat) (first second : List Markdown.Block) :
    seenOf table offset (first ++ second) =
      seenOf table offset first ++ seenOf table offset second := List.map_append

/-! ## The end of a part -/

/-- The lines up to `last` are read, and the dialect sees `seen` in them whether the text ends there
or an empty line and a heading follow. -/
structure Ends (table : LineTable) (offset : Nat) (chain : List OpenBlock) (last : Nat)
    (seen : List Block) : Prop where
  atEnd : ∃ blocks, closeAll (.atEnd last) chain = [document blocks] ∧
    seenOf table offset blocks.reverse = seen
  next : ∀ level text, headingLevel? text = some level →
    ∃ blocks, readLine (readLine chain (last + 1) []) (last + 2) text =
        [{ kind := .heading level, firstLine := last + 2 }, document blocks] ∧
      seenOf table offset blocks.reverse = seen

def headingBlock (table : LineTable) (offset level line : Nat) : Block :=
  { content := .heading level (String.ofList (bareHeading (table.textOf (line + offset))))
    startLine := line + offset
    endLine := 0 }

/-- A list or a paragraph or a code block, without its place. -/
def contentBlock (content : BlockContent) : Block := { content, startLine := 0, endLine := 0 }

section

variable {table : LineTable} {offset last : Nat} {blocks : List Markdown.Block}

theorem seenOf_heading (level first stop : Nat) :
    seenOf table offset [.node (.heading level) first stop []] =
      [headingBlock table offset level first] := rfl

theorem ends_rest : Ends table offset [document blocks] last (seenOf table offset blocks.reverse) :=
  ⟨⟨blocks, rfl, rfl⟩, fun _ _ h => ⟨blocks, by rw [readLine_rest, readLine_title h], rfl⟩⟩

theorem ends_heading (level : Nat) :
    Ends table offset [{ kind := .heading level, firstLine := last }, document blocks] last
      (seenOf table offset blocks.reverse ++ [headingBlock table offset level last]) := by
  have seen : seenOf table offset (.node (.heading level) last last [] :: blocks).reverse =
      seenOf table offset blocks.reverse ++ [headingBlock table offset level last] := by
    rw [List.reverse_cons, seenOf_append, seenOf_heading]
  refine ⟨⟨.node (.heading level) last last [] :: blocks, rfl, seen⟩, fun next text h => ?_⟩
  refine ⟨.node (.heading level) last last [] :: blocks, ?_, seen⟩
  rw [Markdown.readLine_heading, readLine_title h]
  rfl

theorem seenOf_list (first stop : Nat) (items : List Markdown.Block) :
    seenOf table offset [.node .list first stop items] =
      [contentBlock (.list (itemsOf table offset items))] := rfl

theorem ends_list {done nested : List ListItem} {line : Nat} {chain : List OpenBlock}
    (h : OpenList table offset blocks done line nested chain) (started : isStarted chain = true) :
    Ends table offset chain last (seenOf table offset blocks.reverse ++
      [contentBlock (.list (done ++ [bulletAt table offset line nested]))]) := by
  have seen : ∀ first stop items,
      itemsOf table offset items = done ++ [bulletAt table offset line nested] →
      seenOf table offset (.node .list first stop items :: blocks).reverse =
        seenOf table offset blocks.reverse ++
          [contentBlock (.list (done ++ [bulletAt table offset line nested]))] := by
    intro first stop items read
    rw [List.reverse_cons, seenOf_append, seenOf_list, read]
  obtain ⟨first, stop, items, closed, read⟩ := h.closeAll (.atEnd last)
  refine ⟨⟨_, closed, seen first stop items read⟩, fun level text hl => ?_⟩
  obtain ⟨first, stop, items, closed, read⟩ :=
    (h.readLine_blank (n := last + 1) started).readLine_heading (n := last + 2) hl
  exact ⟨_, closed, seen first stop items read⟩

theorem ends_paragraph {paragraph : OpenBlock} (hp : paragraph.kind.isParagraph = true) :
    Ends table offset [paragraph, document blocks] last
      (seenOf table offset ((paragraph.finish last).toList ++ blocks).reverse) := by
  refine ⟨⟨_, closeAll_single _ _, ?_⟩, fun level text h => ⟨_, ?_, rfl⟩⟩
  · rfl
  · rw [readLine_paragraph hp, readLine_title h]
    rfl

end

/-! ## Descriptions -/

/-- The blocks of a text that is read alone. -/
def blocksAlone (text : List Char) : List Markdown.Block :=
  let ls := splitOn '\n' text
  match closeAll (.atEnd ls.length) (readLines [document []] 1 (ls.map cleanLine)) with
  | whole :: _ => whole.children.reverse
  | [] => []

/-- The text of a paragraph of a document. -/
def paragraphText (table : LineTable) (offset : Nat) (block : Markdown.Block) : String :=
  let covered := List.range' (block.firstLine + offset)
    (block.lastLine + offset + 1 - (block.firstLine + offset))
  String.ofList (joinWith ['\n'] (covered.map (trim <| table.textOf ·)))

/-- The paragraphs of a text that is read alone. -/
def paragraphsAlone (text : List Char) : List String :=
  (blocksAlone text).map (paragraphText (LineTable.ofSource text) 0)

/-- A description that is the same wherever it stands: it is made of paragraphs, the last of which
goes on to its end, and they give the description again. -/
structure StandsAlone (docstring : String) : Prop where
  /-- Lines end at line feeds only. -/
  unreturned : '\r' ∉ docstring.toList
  /-- The last paragraph is open at the end. -/
  last : ∃ paragraph blocks,
    readLines [document []] 1 ((splitOn '\n' docstring.toList).map cleanLine) =
      [paragraph, document blocks] ∧ paragraph.kind.isParagraph = true
  /-- There are paragraphs only, and they lie within its lines. -/
  paragraphs : ∀ block ∈ blocksAlone docstring.toList, block.kind = .paragraph ∧
    1 ≤ block.firstLine ∧ block.lastLine ≤ (splitOn '\n' docstring.toList).length
  same : onChars trim (String.intercalate "\n\n" (paragraphsAlone docstring.toList)) = docstring

section

variable {table : LineTable} {offset n k : Nat} {blocks : List Markdown.Block}

theorem gist_paragraph {block : Markdown.Block} (h : block.kind = .paragraph) :
    (Block.ofMarkdown table offset block).gist =
      contentBlock (.paragraph (paragraphText table offset block)) := by
  unfold Block.ofMarkdown
  rw [h]
  rfl

theorem kind_down (block : Markdown.Block) : (block.down k).kind = block.kind := by
  obtain ⟨kind, first, last, children⟩ := block
  rw [Block.down]
  rfl

theorem firstLine_down (block : Markdown.Block) :
    (block.down k).firstLine = block.firstLine + k := by
  obtain ⟨kind, first, last, children⟩ := block
  rw [Block.down]
  rfl

theorem lastLine_down (block : Markdown.Block) : (block.down k).lastLine = block.lastLine + k := by
  obtain ⟨kind, first, last, children⟩ := block
  rw [Block.down, Markdown.Block.lastLine, Markdown.Block.lastLine, Nat.add_max_add_right]

/-- A line of a text and the same line further down in a document. -/
theorem textOf_down {text : List Char} (hr : '\r' ∉ text)
    (hs : Stands table (1 + k + offset) (splitOn '\n' text)) {line : Nat} (first : 1 ≤ line)
    (last : line ≤ (splitOn '\n' text).length) :
    table.textOf (k + offset + line) = (LineTable.ofSource text).textOf line := by
  obtain ⟨i, rfl⟩ := Nat.exists_eq_add_of_le' first
  have inside : i < (splitOn '\n' text).length := by omega
  have piece := List.getElem?_eq_getElem inside
  have place : k + offset + (i + 1) = 1 + k + offset + i := by omega
  rw [place, hs i _ piece, textOf_ofSource piece,
    chopReturn_unreturned (oneLine_of_mem_splitOn hr (List.getElem_mem inside)).unreturned]

/-- A paragraph has the same text further down in a document where its lines stand there. -/
theorem paragraphText_down {text : List Char} (hr : '\r' ∉ text)
    (hs : Stands table (1 + k + offset) (splitOn '\n' text)) {block : Markdown.Block}
    (first : 1 ≤ block.firstLine) (last : block.lastLine ≤ (splitOn '\n' text).length) :
    paragraphText table offset (block.down k) =
      paragraphText (LineTable.ofSource text) 0 block := by
  have count : block.lastLine + k + offset + 1 - (block.firstLine + k + offset) =
      block.lastLine + 0 + 1 - (block.firstLine + 0) := by omega
  have start : block.firstLine + k + offset = k + offset + (block.firstLine + 0) := by omega
  rw [paragraphText, paragraphText, firstLine_down, lastLine_down, count, start,
    ← List.map_add_range', List.map_map]
  congr 2
  refine List.map_congr_left fun line hm => ?_
  have covered := List.mem_range'_1.1 hm
  rw [Function.comp_apply, textOf_down hr hs (by omega) (by omega)]

theorem seenOf_down {docstring : String} (h : StandsAlone docstring)
    (hs : Stands table (1 + k + offset) (splitOn '\n' docstring.toList)) :
    seenOf table offset ((blocksAlone docstring.toList).map (Markdown.Block.down k)) =
      (paragraphsAlone docstring.toList).map fun text => contentBlock (.paragraph text) := by
  rw [seenOf, paragraphsAlone, List.map_map, List.map_map]
  refine List.map_congr_left fun block hm => ?_
  obtain ⟨kind, first, last⟩ := h.paragraphs block hm
  rw [Function.comp_apply, Function.comp_apply, gist_paragraph (by rw [kind_down, kind]),
    paragraphText_down h.unreturned hs first last]

theorem readLines_description {docstring : String} (h : StandsAlone docstring)
    (hs : Stands table (1 + k + offset) (splitOn '\n' docstring.toList)) :
    ∃ paragraph below, readLines [document blocks] (1 + k)
          ((splitOn '\n' docstring.toList).map cleanLine) = [paragraph, document below] ∧
      paragraph.kind.isParagraph = true ∧
      seenOf table offset ((paragraph.finish (k + (splitOn '\n' docstring.toList).length)).toList ++
          below).reverse =
        seenOf table offset blocks.reverse ++
          (paragraphsAlone docstring.toList).map fun text => contentBlock (.paragraph text) := by
  obtain ⟨paragraph, inner, read, open_⟩ := h.last
  have alone : blocksAlone docstring.toList =
      ((paragraph.finish (splitOn '\n' docstring.toList).length).toList ++ inner).reverse := by
    rw [blocksAlone, read]
    rfl
  have start : ([document []].map (·.placed k blocks)) = [document blocks] := rfl
  have below : (document inner).placed k blocks =
      document (inner.map (Markdown.Block.down k) ++ blocks) := rfl
  have placed := @readLines_placed k 1 blocks [document []] (Nat.le_refl 1)
    ((splitOn '\n' docstring.toList).map cleanLine)
  rw [start, read, List.map_cons, List.map_singleton, below] at placed
  refine ⟨_, _, placed, by rwa [OpenBlock.placed_kind], ?_⟩
  rw [Nat.add_comm k, OpenBlock.placed_finish, Option.toList_map, ← List.append_assoc,
    ← List.map_append, List.reverse_append, ← List.map_reverse, ← alone, seenOf_append,
    seenOf_down h hs]

end

/-! ## Code blocks -/

section

variable {table : LineTable} {offset n : Nat} {blocks : List Markdown.Block}

/-- A line that does not end a code block. -/
def StaysCode (line : List Char) : Prop :=
  closesFence '\x60' 3 (line.dropWhile isSpaceOrTab) = false

theorem readLines_code {members : List (List Char)} (h : ∀ line ∈ members, StaysCode line)
    (first : Nat) (before : List (List Char)) :
    readLines [openCode first before, document blocks] n members =
      [openCode first (members.reverse ++ before), document blocks] := by
  induction members generalizing n before with
  | nil => rfl
  | cons line more ih =>
    rw [readLines, readLine_code (h line List.mem_cons_self),
      ih fun x hx => h x (List.mem_cons_of_mem _ hx), List.reverse_cons, List.append_assoc]
    rfl

/-- The fence around the members of an enumeration. -/
def fenceLine : List Char := ['\x60', '\x60', '\x60']

/-- The lines of a code block. -/
def codeLines (members : List (List Char)) : List (List Char) :=
  (fenceLine ++ python) :: members ++ [fenceLine]

/-- The info text of a code block as the dialect sees it. -/
def codeInfo : String :=
  String.ofList (trim (unescape (trimWhere isAsciiSpace (decodeEntities python))))

/-- What the dialect sees of a code block whose first line is `n`. -/
def codeBlock (offset n : Nat) (members : List (List Char)) : Block :=
  contentBlock (.code codeInfo
    (members.zipIdx.map fun (line, i) => (n + offset + 1 + i, String.ofList line)))

/-- The lines of a code block in a document without open blocks. -/
theorem readLines_codeLines {members : List (List Char)} (h : ∀ line ∈ members, StaysCode line) :
    ∃ below, readLines [document blocks] n (codeLines members) = [document below] ∧
      seenOf table offset below.reverse =
        seenOf table offset blocks.reverse ++ [codeBlock offset n members] := by
  have opened : readLine [document blocks] n (fenceLine ++ python) =
      [openCode n [python], document blocks] := readLine_fence
  have closed : readLines [document blocks] n (codeLines members) =
      [document (.node (.code true
        (unescape (trimWhere isAsciiSpace (decodeEntities python))) members) n
          (n + 1 + members.length) [] :: blocks)] := by
    rw [codeLines, List.cons_append, readLines, opened, readLines_append, readLines_code h,
      readLines, readLines, fenceLine, readLine_closing, List.reverse_reverse]
  refine ⟨_, closed, ?_⟩
  rw [List.reverse_cons, seenOf_append]
  rfl

end

/-! ## Parts -/

/-- What stands under a heading besides the description. -/
inductive Content where
  | none
  | list (bullets : List WrittenBullet)
  | code (members : List (List Char))

/-- The lines of a content with an empty line before them. -/
def Content.lines : Content → List (List Char)
  | none => []
  | list bullets => [] :: bullets.flatMap bulletLines
  | code members => [] :: codeLines members

/-- What the dialect sees of a content that comes after the line `last`. -/
def Content.blocks (table : LineTable) (offset last : Nat) : Content → List Block
  | none => []
  | list bullets => [contentBlock (.list (bulletsFrom table offset (last + 2) bullets))]
  | code members => [codeBlock offset (last + 2) members]

/-- A bullet as the block structure sees it. -/
def cleanBullet (bullet : WrittenBullet) : WrittenBullet :=
  (cleanLine bullet.1, bullet.2.map cleanLine)

/-- A content that is seen as it was written. -/
def Content.Plain : Content → Prop
  | none => True
  | list bullets => bullets ≠ [] ∧ ∀ bullet ∈ bullets, PlainBullet (cleanBullet bullet)
  | code members => ∀ line ∈ members, StaysCode line ∧ cleanLine line = line

theorem cleanLine_bulletLines (bullet : WrittenBullet) :
    (bulletLines bullet).map cleanLine = bulletLines (cleanBullet bullet) := by
  rw [bulletLines, List.map_cons, List.map_map, bulletLines, cleanBullet, List.map_map]
  rfl

theorem cleanLine_codeLines {members : List (List Char)}
    (h : ∀ line ∈ members, cleanLine line = line) :
    (codeLines members).map cleanLine = codeLines members := by
  rw [codeLines, List.cons_append, List.map_cons, List.map_append,
    List.map_congr_left (g := id) h, List.map_id]
  rfl

theorem bulletsFrom_clean (table : LineTable) (offset n : Nat) (bullets : List WrittenBullet) :
    bulletsFrom table offset n (bullets.map cleanBullet) = bulletsFrom table offset n bullets := by
  induction bullets generalizing n with
  | nil => rfl
  | cons bullet more ih =>
    rw [List.map_cons, bulletsFrom, bulletsFrom, ih, cleanBullet, List.length_map]

section

variable {table : LineTable} {offset last : Nat} {seen : List Block} {chain : List OpenBlock}

/-- The lines up to `last` are read, and an empty line leaves no block open. -/
def Settles (table : LineTable) (offset : Nat) (chain : List OpenBlock) (last : Nat)
    (seen : List Block) : Prop :=
  ∃ blocks, readLine chain (last + 1) [] = [document blocks] ∧
    seenOf table offset blocks.reverse = seen

theorem ends_content (ends : Ends table offset chain last seen)
    (settles : Settles table offset chain last seen) {content : Content} (h : content.Plain) :
    Ends table offset (readLines chain (last + 1) (content.lines.map cleanLine))
      (last + content.lines.length) (seen ++ content.blocks table offset last) := by
  obtain ⟨blocks, rest, rfl⟩ := settles
  cases content with
  | none =>
    rw [Content.blocks, List.append_nil]
    exact ends
  | list bullets =>
    obtain ⟨some, plain⟩ := h
    have lines : readLines chain (last + 1) ((Content.list bullets).lines.map cleanLine) =
        readLines [document blocks] (last + 2) ((bullets.map cleanBullet).flatMap bulletLines) := by
      rw [Content.lines, List.map_cons, List.map_flatMap, List.flatMap_map]
      simp only [cleanLine_bulletLines]
      exact congrArg (readLines · _ _) rest
    have clean : ∀ bullet ∈ bullets.map cleanBullet, PlainBullet bullet := by
      intro bullet hm
      obtain ⟨written, hw, rfl⟩ := List.mem_map.1 hm
      exact plain written hw
    obtain ⟨before, line, inner, opened, started, same⟩ :=
      @readLines_list table offset blocks (last + 2) _ (mt List.map_eq_nil_iff.1 some) clean
    rw [lines, Content.blocks, ← bulletsFrom_clean, ← same]
    exact ends_list opened started
  | code members =>
    have lines : readLines chain (last + 1) ((Content.code members).lines.map cleanLine) =
        readLines [document blocks] (last + 2) (codeLines members) := by
      rw [Content.lines, List.map_cons, cleanLine_codeLines fun line hm => (h line hm).2]
      exact congrArg (readLines · _ _) rest
    obtain ⟨below, read, same⟩ := @readLines_codeLines table offset (last + 2)
      blocks members fun line hm => (h line hm).1
    rw [lines, read, Content.blocks, ← same]
    exact ends_rest

end

/-- A heading with what belongs to it. -/
structure Part where
  /-- The level of the heading. -/
  level : Nat
  /-- The line of the heading. -/
  heading : List Char
  docstring : String := ""
  content : Content := .none

namespace Part

/-- The lines of the description with an empty line before them. -/
def describedLines (part : Part) : List (List Char) :=
  if part.docstring.isEmpty then [] else [] :: splitOn '\n' part.docstring.toList

def body (part : Part) : List (List Char) := part.describedLines ++ part.content.lines

def lines (part : Part) : List (List Char) := part.heading :: part.body

def paragraphs (part : Part) : List String :=
  if part.docstring.isEmpty then [] else paragraphsAlone part.docstring.toList

/-- What the dialect sees of a part whose heading is on line `n`. -/
def blocks (table : LineTable) (offset n : Nat) (part : Part) : List Block :=
  headingBlock table offset part.level n ::
    (part.paragraphs.map fun text => contentBlock (.paragraph text)) ++
      part.content.blocks table offset (n + part.describedLines.length)

/-- A part that is seen as it was written. -/
structure Plain (part : Part) : Prop where
  heading : headingLevel? (cleanLine part.heading) = some part.level
  /-- The description is the same everywhere. -/
  docstring : part.docstring.isEmpty = true ∨ StandsAlone part.docstring
  content : part.content.Plain

end Part

section

variable {table : LineTable} {offset n : Nat} {finished : List Markdown.Block}

theorem settles_heading (level : Nat) :
    Settles table offset [{ kind := .heading level, firstLine := n }, document finished] n
      (seenOf table offset finished.reverse ++ [headingBlock table offset level n]) := by
  refine ⟨.node (.heading level) n n [] :: finished, ?_, ?_⟩
  · rw [Markdown.readLine_heading]
    rfl
  · rw [List.reverse_cons, seenOf_append, seenOf_heading]

theorem settles_paragraph {paragraph : OpenBlock} (hp : paragraph.kind.isParagraph = true) :
    Settles table offset [paragraph, document finished] n
      (seenOf table offset ((paragraph.finish n).toList ++ finished).reverse) :=
  ⟨_, readLine_paragraph hp, rfl⟩

theorem ends_description {part : Part} (h : part.Plain)
    (hs : Stands table (n + 1 + offset) part.describedLines) :
    let chain := readLines [{ kind := .heading part.level, firstLine := n }, document finished]
      (n + 1) (part.describedLines.map cleanLine)
    let last := n + part.describedLines.length
    let seen := seenOf table offset finished.reverse ++ (headingBlock table offset part.level n ::
      part.paragraphs.map fun text => contentBlock (.paragraph text))
    Ends table offset chain last seen ∧ Settles table offset chain last seen := by
  intro chain last seen
  by_cases empty : part.docstring.isEmpty = true
  · have none : part.describedLines = [] := by rw [Part.describedLines, if_pos empty]
    have bare : part.paragraphs = [] := by rw [Part.paragraphs, if_pos empty]
    simp only [chain, last, seen, none, bare]
    exact ⟨ends_heading part.level, settles_heading part.level⟩
  · have stands := h.docstring.resolve_left empty
    have lines : part.describedLines = [] :: splitOn '\n' part.docstring.toList := by
      rw [Part.describedLines, if_neg empty]
    have texts : part.paragraphs = paragraphsAlone part.docstring.toList := by
      rw [Part.paragraphs, if_neg empty]
    rw [lines] at hs
    have place : Stands table (1 + (n + 1) + offset) (splitOn '\n' part.docstring.toList) := by
      have tail := hs.tail
      rwa [Nat.add_right_comm (n + 1), Nat.add_comm (n + 1) 1] at tail
    obtain ⟨paragraph, below, read, open_, same⟩ :=
      @readLines_description table offset (n + 1) (.node (.heading part.level) n n [] :: finished)
        part.docstring stands place
    have chained : chain = [paragraph, document below] := by
      simp only [chain, lines, List.map_cons]
      rw [← read, Nat.add_comm 1]
      exact congrArg (readLines · _ _) (Markdown.readLine_heading part.level n)
    have count : last = n + 1 + (splitOn '\n' part.docstring.toList).length := by
      simp only [last, lines, List.length_cons]
      omega
    have shown : seen = seenOf table offset ((paragraph.finish last).toList ++ below).reverse := by
      rw [count, same, List.reverse_cons, seenOf_append, seenOf_heading, List.append_assoc]
      simp only [seen, texts]
      rfl
    rw [chained, shown]
    exact ⟨ends_paragraph open_, settles_paragraph open_⟩

theorem ends_part {part : Part} (h : part.Plain) (hs : Stands table (n + offset) part.lines) :
    Ends table offset
      (readLines [{ kind := .heading part.level, firstLine := n }, document finished] (n + 1)
        (part.body.map cleanLine))
      (n + part.body.length)
      (seenOf table offset finished.reverse ++ part.blocks table offset n) := by
  have described : Stands table (n + 1 + offset) part.describedLines := by
    rw [Nat.add_right_comm]
    exact hs.tail.append.1
  obtain ⟨ends, settles⟩ := @ends_description table offset n finished part h described
  have content := ends_content ends settles h.content
  have count : n + part.body.length =
      n + part.describedLines.length + part.content.lines.length := by
    rw [Part.body, List.length_append, Nat.add_assoc]
  rw [Part.body, List.map_append, readLines_append, List.length_map, ← Part.body, count,
    Part.blocks, ← List.append_assoc, Nat.add_right_comm n 1]
  exact content

/-- The blocks of parts, the first of which begins on line `n`. -/
def partsBlocks (table : LineTable) (offset : Nat) : Nat → List Part → List Block
  | _, [] => []
  | n, part :: more =>
    part.blocks table offset n ++ partsBlocks table offset (n + part.lines.length + 1) more

/-- The lines of parts with an empty line before each of them. -/
def spacedLines (parts : List Part) : List (List Char) := parts.flatMap fun part => [] :: part.lines

theorem ends_parts {parts : List Part} (h : ∀ part ∈ parts, part.Plain) {chain : List OpenBlock}
    {last : Nat} {seen : List Block} (ends : Ends table offset chain last seen)
    (hs : Stands table (last + 1 + offset) (spacedLines parts)) :
    Ends table offset (readLines chain (last + 1) ((spacedLines parts).map cleanLine))
      (last + (spacedLines parts).length)
      (seen ++ partsBlocks table offset (last + 2) parts) := by
  induction parts generalizing chain last seen with
  | nil =>
    rw [partsBlocks, List.append_nil]
    exact ends
  | cons part more ih =>
    have plain := h part List.mem_cons_self
    obtain ⟨blocks, read, rfl⟩ := ends.next _ _ plain.heading
    have spaced : spacedLines (part :: more) = ([] :: part.lines) ++ spacedLines more := rfl
    rw [spaced] at hs
    obtain ⟨own, later⟩ := hs.append
    have place : Stands table (last + 2 + offset) part.lines := by
      have tail := own.tail
      rwa [Nat.add_right_comm (last + 1)] at tail
    have ended := @ends_part table offset (last + 2) blocks part plain place
    have count : ([] :: part.lines : List (List Char)).length = part.body.length + 2 := rfl
    have next : last + 1 + offset + ([] :: part.lines : List (List Char)).length =
        last + 2 + part.body.length + 1 + offset := by
      rw [count]
      omega
    rw [next] at later
    have rest := ih (fun x hx => h x (List.mem_cons_of_mem _ hx)) ended later
    have lines : readLines chain (last + 1) ((spacedLines (part :: more)).map cleanLine) =
        readLines (readLines [{ kind := .heading part.level, firstLine := last + 2 },
          document blocks] (last + 2 + 1) (part.body.map cleanLine))
          (last + 2 + part.body.length + 1) ((spacedLines more).map cleanLine) := by
      have after : last + 1 + (([] :: part.lines : List (List Char)).map cleanLine).length =
          last + 2 + part.body.length + 1 := by
        rw [List.length_map, count]
        omega
      rw [spaced, List.map_append, readLines_append, after, ← read]
      rfl
    have total : last + (spacedLines (part :: more)).length =
        last + 2 + part.body.length + (spacedLines more).length := by
      rw [spaced, List.length_append, count]
      omega
    have start : last + 2 + part.lines.length + 1 = last + 2 + part.body.length + 2 := by
      rw [Part.lines, List.length_cons]
      omega
    rw [lines, total, partsBlocks, start, ← List.append_assoc]
    exact rest

end

end Dialect
end DocModel

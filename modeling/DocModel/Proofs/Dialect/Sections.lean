import DocModel.Proofs.Dialect.Parts

/-!
# DocModel.Proofs.Dialect.Sections

The sections and the title of a document that is made of parts.

* `gist_blocksOf_first` and `gist_blocksOf_spaced` give the blocks of the document;
* `sectionsOf_parts` gives a section for each part, `titleOf_parts` the title.
-/

namespace DocModel
namespace Dialect

open Markdown Text

/-! ## The blocks of a document -/

theorem blocks_eq {text : List Char} {ls : List (List Char)} (h : bodyLines (cleaned text) = ls)
    {finished : List Markdown.Block}
    (closed : closeAll (.atEnd ls.length) (readLines [document []] 1 ls) = [document finished]) :
    Markdown.blocks text = finished.reverse := by
  unfold Markdown.blocks
  rw [h]
  unfold closeAll at closed
  dsimp only
  unfold document at closed
  rw [closed]

section

variable {table : LineTable} {offset : Nat}

theorem gist_blocksOf {ls : List (List Char)} (oneLine : ∀ line ∈ ls, OneLine line)
    (mark : (terminated ls).head? ≠ some '\uFEFF') {seen : List Block}
    (ends : Ends table offset (readLines [document []] 1 (ls.map cleanLine)) ls.length seen) :
    (blocksOf table offset (terminated ls)).map Block.gist = seen := by
  obtain ⟨finished, closed, rfl⟩ := ends.atEnd
  have lines : bodyLines (cleaned (terminated ls)) = ls.map cleanLine := by
    rw [cleaned_terminated mark, bodyLines_terminated]
    intro line hm
    obtain ⟨raw, hr, rfl⟩ := List.mem_map.1 hm
    exact oneLine_cleanLine (oneLine raw hr)
  rw [← List.length_map (f := cleanLine)] at closed
  rw [blocksOf, blocks_eq lines closed, seenOf, List.map_map]
  rfl

/-- The blocks of parts that each come after an empty line. -/
theorem gist_blocksOf_spaced {parts : List Part} (h : ∀ part ∈ parts, part.Plain)
    (oneLine : ∀ line ∈ spacedLines parts, OneLine line)
    (hs : Stands table (1 + offset) (spacedLines parts)) :
    (blocksOf table offset (terminated (spacedLines parts))).map Block.gist =
      partsBlocks table offset 2 parts := by
  have start : Ends table offset [document []] 0 [] := ends_rest
  have ends := ends_parts h start (by rwa [Nat.zero_add])
  rw [List.nil_append, Nat.zero_add, Nat.zero_add, Nat.zero_add] at ends
  refine gist_blocksOf oneLine ?_ ends
  cases parts with
  | nil => intro h; cases h
  | cons part more => intro h; cases h

theorem Part.Plain.head {part : Part} (h : part.Plain) : ∃ rest, part.heading = '#' :: rest := by
  obtain ⟨rest, hash⟩ := head_of_headingLevel? h.heading
  cases hp : part.heading with
  | nil => rw [hp] at hash; cases hash
  | cons c more =>
    rw [hp, cleanLine, List.map_cons] at hash
    exact ⟨more, by rw [cleanChar_eq (by decide) (List.cons.inj hash).1]⟩

theorem gist_blocksOf_first {part : Part} {more : List Part}
    (h : ∀ x ∈ part :: more, x.Plain)
    (oneLine : ∀ line ∈ part.lines ++ spacedLines more, OneLine line)
    (hs : Stands table (1 + offset) (part.lines ++ spacedLines more)) :
    (blocksOf table offset (terminated (part.lines ++ spacedLines more))).map Block.gist =
      partsBlocks table offset 1 (part :: more) := by
  have plain := h part List.mem_cons_self
  obtain ⟨own, later⟩ := hs.append
  have first := @ends_part table offset 1 [] part plain own
  have place : Stands table (1 + part.body.length + 1 + offset) (spacedLines more) := by
    have count : 1 + offset + part.lines.length = 1 + part.body.length + 1 + offset := by
      rw [Part.lines, List.length_cons]
      omega
    rwa [count] at later
  have ends := ends_parts (fun x hx => h x (List.mem_cons_of_mem _ hx)) first place
  have lines : readLines [document []] 1 ((part.lines ++ spacedLines more).map cleanLine) =
      readLines (readLines [{ kind := .heading part.level, firstLine := 1 }, document []] (1 + 1)
        (part.body.map cleanLine)) (1 + part.body.length + 1)
        ((spacedLines more).map cleanLine) := by
    have after : 1 + (part.lines.map cleanLine).length = 1 + part.body.length + 1 := by
      rw [List.length_map, Part.lines, List.length_cons, Nat.add_assoc]
    rw [List.map_append, readLines_append, after, ← readLine_title plain.heading]
    rfl
  have total : (part.lines ++ spacedLines more).length =
      1 + part.body.length + (spacedLines more).length := by
    rw [List.length_append, Part.lines, List.length_cons, Nat.add_comm 1]
  have start : 1 + part.body.length + 2 = 1 + part.lines.length + 1 := by
    rw [Part.lines, List.length_cons]
    omega
  rw [partsBlocks, ← start]
  refine gist_blocksOf oneLine ?_ ?_
  · obtain ⟨rest, hash⟩ := plain.head
    rw [Part.lines, hash]
    intro h
    cases h
  · rw [lines, total]
    exact ends

end

/-! ## Sections -/

/-- The lists of a content that comes after the line `last`. -/
def Content.lists (table : LineTable) (offset last : Nat) : Content → List (List ListItem)
  | list bullets => [bulletsFrom table offset (last + 2) bullets]
  | _ => []

/-- The code blocks of a content that comes after the line `last`. -/
def Content.codeBlocks (offset last : Nat) : Content → List (List (Nat × String))
  | code members =>
    [members.zipIdx.map fun (line, i) => (last + 2 + offset + 1 + i, String.ofList line)]
  | _ => []

/-- The section of a part whose heading is on line `n`. -/
def Part.section (table : LineTable) (offset n : Nat) (part : Part) : Section :=
  { name := String.ofList (bareHeading part.heading)
    line := n + offset
    paragraphs := part.paragraphs
    lists := part.content.lists table offset (n + part.describedLines.length)
    codeBlocks := part.content.codeBlocks offset (n + part.describedLines.length) }

/-- The sections of parts, the first of which begins on line `n`. -/
def partSections (table : LineTable) (offset : Nat) : Nat → List Part → List Section
  | _, [] => []
  | n, part :: more =>
    part.section table offset n :: partSections table offset (n + part.lines.length + 1) more

section

variable {table : LineTable} {offset n : Nat}

theorem sectionsAfter_paragraphs {s : Section} (h : s.isDescribed = true) (texts : List String)
    (rest : List Block) :
    sectionsAfter (some s) ((texts.map fun text => contentBlock (.paragraph text)) ++ rest) =
      sectionsAfter (some { s with paragraphs := s.paragraphs ++ texts }) rest := by
  induction texts generalizing s with
  | nil => rw [List.map_nil, List.nil_append, List.append_nil]
  | cons text more ih =>
    have added : s.add (contentBlock (.paragraph text)) =
        { s with paragraphs := s.paragraphs ++ [text] } := by
      simp only [Section.add, contentBlock, h, if_true]
    have step : sectionsAfter (some s) (((text :: more).map fun text =>
        contentBlock (.paragraph text)) ++ rest) =
          sectionsAfter (some (s.add (contentBlock (.paragraph text))))
            ((more.map fun text => contentBlock (.paragraph text)) ++ rest) := rfl
    have next := ih (s := { s with paragraphs := s.paragraphs ++ [text] }) h
    rw [step, added, next, List.append_assoc]
    rfl

theorem sectionsAfter_content {s : Section} (hl : s.lists = []) (hc : s.codeBlocks = [])
    (content : Content) (last : Nat) (rest : List Block) :
    sectionsAfter (some s) (content.blocks table offset last ++ rest) =
      sectionsAfter (some { s with lists := content.lists table offset last,
                                   codeBlocks := content.codeBlocks offset last }) rest := by
  obtain ⟨name, line, paragraphs, lists, codeBlocks⟩ := s
  cases hl
  cases hc
  cases content <;> rfl

/-- A part of level three ends the section before it and opens its own. -/
theorem sectionsAfter_part {part : Part} (level : part.level = 3)
    (heading : table.textOf (n + offset) = part.heading) (current : Option Section)
    (rest : List Block) :
    sectionsAfter current (part.blocks table offset n ++ rest) =
      current.toList ++ sectionsAfter (some (part.section table offset n)) rest := by
  have opened : sectionsAfter current (part.blocks table offset n ++ rest) =
      current.toList ++ sectionsAfter
        (some { name := String.ofList (bareHeading part.heading), line := n + offset })
        ((part.paragraphs.map fun text => contentBlock (.paragraph text)) ++
          (part.content.blocks table offset (n + part.describedLines.length) ++ rest)) := by
    rw [← List.append_assoc, Part.blocks, List.cons_append, headingBlock, level, heading]
    rfl
  rw [opened, sectionsAfter_paragraphs rfl, sectionsAfter_content rfl rfl]
  rfl

theorem sectionsAfter_parts {parts : List Part} (level : ∀ part ∈ parts, part.level = 3)
    (hs : Stands table (n + offset) (spacedLines parts).tail) (current : Option Section) :
    sectionsAfter current (partsBlocks table offset n parts) =
      current.toList ++ partSections table offset n parts := by
  induction parts generalizing n current with
  | nil => rw [partsBlocks, partSections, List.append_nil]; rfl
  | cons part more ih =>
    have split : Stands table (n + offset) (part.lines ++ spacedLines more) := hs
    obtain ⟨own, later⟩ := split.append
    have next : Stands table (n + part.lines.length + 1 + offset) (spacedLines more).tail := by
      have place : n + offset + part.lines.length + 1 = n + part.lines.length + 1 + offset := by
        omega
      have tail := later.tail
      rwa [place] at tail
    rw [partsBlocks, sectionsAfter_part (level part List.mem_cons_self) own.head,
      ih (fun x hx => level x (List.mem_cons_of_mem _ hx)) next]
    rfl

theorem titleOf_parts {parts : List Part} (level : ∀ part ∈ parts, part.level = 3) :
    titleOf (partsBlocks table offset n parts) = none := by
  induction parts generalizing n with
  | nil => rfl
  | cons part more ih =>
    have own : titleOf (part.blocks table offset n) = none := by
      rw [titleOf, List.findSome?_eq_none_iff]
      intro block hm
      rw [Part.blocks, List.cons_append, List.mem_cons, List.mem_append, List.mem_map] at hm
      rcases hm with rfl | ⟨text, -, rfl⟩ | hc
      · rw [headingBlock, level part List.mem_cons_self]
        rfl
      · rfl
      · cases hcontent : part.content <;> rw [hcontent] at hc
        · cases hc
        · rw [List.mem_singleton.1 hc]; rfl
        · rw [List.mem_singleton.1 hc]; rfl
    have rest := ih (n := n + part.lines.length + 1) fun x hx => level x (List.mem_cons_of_mem _ hx)
    rw [titleOf] at own rest ⊢
    rw [partsBlocks, List.findSome?_append, own, rest]
    rfl

def titlePart (title : List Char) : Part := { level := 1, heading := '#' :: ' ' :: title }

theorem sectionsOf_title {title : List Char} (rest : List Block) :
    sectionsOf ((titlePart title).blocks table offset n ++ rest) = sectionsOf rest := rfl

/-- The title of a document. A heading without text gives none. -/
theorem titleOf_title {title : List Char} (heading : table.textOf (n + offset) =
      '#' :: ' ' :: title) (rest : List Block) :
    titleOf ((titlePart title).blocks table offset n ++ rest) =
      if (String.ofList (bareHeading ('#' :: ' ' :: title))).isEmpty then titleOf rest
      else some (String.ofList (bareHeading ('#' :: ' ' :: title))) := by
  have first : (titlePart title).blocks table offset n ++ rest =
      { content := .heading 1 (String.ofList (bareHeading ('#' :: ' ' :: title)))
        startLine := n + offset
        endLine := 0 } :: rest := by
    rw [← heading]
    rfl
  rw [first, titleOf, List.findSome?_cons, titleOf]
  cases empty : (String.ofList (bareHeading ('#' :: ' ' :: title))).isEmpty with
  | true => simp only [empty, if_true]
  | false => simp only [empty, Bool.false_eq_true, if_false]

end

end Dialect
end DocModel

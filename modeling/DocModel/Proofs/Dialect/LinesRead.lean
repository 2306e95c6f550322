import DocModel.Dialect.Document
import DocModel.Proofs.Dialect.OpenList
import DocModel.Proofs.Dialect.Readings
import DocModel.Proofs.Markdown.OriginLines
import DocModel.Proofs.Source.BodyLines
import DocModel.Proofs.Trimming

/-!
# DocModel.Proofs.Dialect.LinesRead

The lines that the blocks of a document carry.

* `bulletText_iff`: the text of a bullet is what follows the first marker of its line, and only
  that;
* `ReadItem` and `ReadBlock` hold where every number of a line leads back to the line on which the
  block structure saw the item, the block or the line of code;
* `lexed_lines` gives them for all blocks of a document in which returns are paired.
-/

namespace DocModel
namespace Dialect

open Text Unicode Markdown

/-! ## The text of a bullet -/

theorem isWhiteSpace_of_isAsciiSpace {c : Char} (h : isAsciiSpace c = true) :
    isWhiteSpace c = true := by
  rcases isAsciiSpace_iff.1 h with rfl | rfl | rfl | rfl | rfl | rfl <;> rfl

theorem isWhiteSpace_of_isSpaceOrTab {c : Char} (h : isSpaceOrTab c = true) :
    isWhiteSpace c = true := by
  rcases isSpaceOrTab_iff.1 h with rfl | rfl <;> rfl

theorem isDecimal_of_isDigit {c : Char} (h : c.isDigit = true) : isDecimal c = true := by
  have digit := h
  simp only [Char.isDigit, Bool.and_eq_true, decide_eq_true_eq] at digit
  have small : c.toNat < 0x80 := Nat.lt_of_le_of_lt digit.2 (by decide)
  rw [isDecimal, if_pos small, h]

theorem not_white_of_isDigit {c : Char} (h : c.isDigit = true) : isWhiteSpace c = false := by
  simp only [Char.isDigit, Bool.and_eq_true, decide_eq_true_eq] at h
  have first : 48 ≤ c.toNat := h.1
  have last : c.toNat ≤ 57 := h.2
  have small : c.toNat < 0x80 := by omega
  simp only [isWhiteSpace, if_pos small]
  simp
  omega

/-- The characters of a text that are no white space. -/
def solid (text : List Char) : Nat := text.countP fun c => !isWhiteSpace c

theorem solid_append (first second : List Char) :
    solid (first ++ second) = solid first + solid second :=
  List.countP_append

theorem solid_eq_zero {text : List Char} (h : ∀ c ∈ text, isWhiteSpace c = true) :
    solid text = 0 := by
  refine List.countP_eq_zero.2 fun c hc => ?_
  rw [h c hc]
  exact Bool.false_ne_true

theorem solid_trimStart (text : List Char) : solid (trimStart text) = solid text := by
  have cut := List.takeWhile_append_dropWhile (p := isWhiteSpace) (l := text)
  have white : solid (text.takeWhile isWhiteSpace) = 0 :=
    solid_eq_zero fun c hc => List.mem_takeWhile_imp hc
  rw [← congrArg solid cut, solid_append, white, Nat.zero_add]
  rfl

theorem solid_trim (text : List Char) : solid (trim text) = solid text := by
  have last : ∀ text, solid (dropEndWhile isWhiteSpace text) = solid text := by
    intro text
    rw [dropEndWhile, solid, List.countP_reverse]
    exact (solid_trimStart text.reverse).trans List.countP_reverse
  exact (last _).trans (solid_trimStart text)

/-- A marker begins with a character that is no white space. -/
theorem head_markerText {mark : List Char} (h : MarkerText mark) :
    ∃ c more, mark = c :: more ∧ isWhiteSpace c = false := by
  cases h with
  | bullet c marks =>
    refine ⟨c, [], rfl, ?_⟩
    rcases marks with rfl | rfl | rfl <;> rfl
  | ordered digits some number d marks =>
    obtain ⟨c, more, rfl⟩ := List.exists_cons_of_ne_nil some
    exact ⟨c, more ++ [d], rfl, not_white_of_isDigit (number c List.mem_cons_self)⟩

/-- What follows a marker is shorter by the marker at least. -/
theorem solid_afterMarkers {text rest : List Char} {n : Nat} (h : AfterMarkers text n rest) :
    solid rest + n ≤ solid text := by
  induction h with
  | start => exact Nat.le_refl _
  | next _ marker ih =>
    obtain ⟨blanks, mark, rfl, -, markers, -⟩ := marker
    obtain ⟨c, more, rfl, black⟩ := head_markerText markers
    have own : 1 ≤ solid (c :: more) := by
      rw [solid, List.countP_cons_of_pos (by simp [black])]
      exact Nat.succ_pos _
    rw [solid_append, solid_append] at ih
    omega

theorem follows_space (rest : List Char) : (∀ c ∈ rest.head?, isAsciiSpace c = true) →
    (match rest with
      | [] => some []
      | c :: _ => if isWhiteSpace c then some rest else none) = some rest := by
  intro space
  cases rest with
  | nil => rfl
  | cons c more => exact if_pos (isWhiteSpace_of_isAsciiSpace (space c rfl))

theorem afterListMarker?_markerText {mark rest : List Char} (h : MarkerText mark)
    (space : ∀ c ∈ rest.head?, isAsciiSpace c = true) :
    afterListMarker? (mark ++ rest) = some rest := by
  cases h with
  | bullet c marks =>
    have bullet : (c == '-' || c == '*' || c == '+') = true := by
      rcases marks with rfl | rfl | rfl <;> rfl
    rw [List.singleton_append, afterListMarker?]
    dsimp only
    rw [if_pos bullet]
    exact follows_space rest space
  | ordered digits some number d marks =>
    obtain ⟨c, more, rfl⟩ := List.exists_cons_of_ne_nil some
    have digit := number c List.mem_cons_self
    have bullet : (c == '-' || c == '*' || c == '+') = false := by
      by_contra other
      simp only [Bool.not_eq_false, Bool.or_eq_true, beq_iff_eq] at other
      rcases other with (rfl | rfl) | rfl <;> cases digit
    have passed : (more ++ [d] ++ rest).dropWhile isDecimal = d :: rest := by
      rw [List.append_assoc, List.dropWhile_append_of_pos fun e he =>
        isDecimal_of_isDigit (number e (List.mem_cons_of_mem c he))]
      rcases marks with rfl | rfl <;> rfl
    have mark : (d == '.' || d == ')') = true := by
      rcases marks with rfl | rfl <;> rfl
    rw [List.cons_append, List.cons_append, afterListMarker?]
    dsimp only
    rw [bullet, passed, if_neg Bool.false_ne_true, if_pos (isDecimal_of_isDigit digit)]
    dsimp only
    rw [if_pos mark]
    exact follows_space rest space

theorem bulletText_afterMarker {line rest : List Char} (h : AfterMarker line rest) :
    bulletText line = trim rest := by
  obtain ⟨blanks, mark, rfl, blank, markers, space⟩ := h
  obtain ⟨c, more, rfl, black⟩ := head_markerText markers
  have start : trimStart (blanks ++ (c :: more ++ rest)) = c :: more ++ rest := by
    rw [trimStart,
      List.dropWhile_append_of_pos fun e he => isWhiteSpace_of_isSpaceOrTab (blank e he),
      List.cons_append, List.dropWhile_cons_of_neg (by simp [black])]
  rw [bulletText, start, afterListMarker?_markerText markers space]
  rfl

theorem bulletText_mark (line : List Char) :
    bulletText ('\uFEFF' :: line) = trim ('\uFEFF' :: line) := by
  rfl

/-- The text of a bullet is what follows the marker of an item exactly if no other marker stands
before it on the line, and no byte order mark. -/
theorem bulletText_iff {line rest mark : List Char} {n : Nat} (h : AfterMarkers line (n + 1) rest)
    (hm : mark = [] ∨ mark = ['\uFEFF']) :
    bulletText (mark ++ line) = trim rest ↔ n = 0 ∧ mark = [] := by
  rcases hm with rfl | rfl
  · obtain ⟨behind, first, later⟩ := h.first
    rw [List.nil_append, bulletText_afterMarker first]
    refine ⟨fun same => ⟨?_, rfl⟩, fun ⟨zero, _⟩ => ?_⟩
    · have less := solid_afterMarkers later
      have equal := congrArg solid same
      rw [solid_trim, solid_trim] at equal
      omega
    · subst zero
      cases later
      rfl
  · refine ⟨fun same => ?_, fun ⟨_, bare⟩ => by cases bare⟩
    have less := solid_afterMarkers h
    have equal := congrArg solid same
    have mark : solid ('\uFEFF' :: line) = solid line + 1 := List.countP_cons_of_pos rfl
    rw [List.singleton_append, bulletText_mark, solid_trim, solid_trim, mark] at equal
    omega

/-! ## Lines and where they are read -/

/-- The line `n` of the block structure, counted from one, is the line `number` of the document. -/
structure Shown (table : LineTable) (parts : Parts) (n number : Nat) (line : List Char) : Prop where
  first : 0 < n
  /-- The lines of the front matter come before. -/
  behind : number = n + parts.offset
  read : (bodyLines (unmarked parts.body))[n - 1]? = some line
  /-- It is what stands there, behind the byte order mark. -/
  stands : table.textOf number = markBefore parts.body (n - 1) ++ line

/-- The items of the lists among blocks. -/
def itemNodes (blocks : List Markdown.Block) : List Markdown.Block :=
  blocks.flatMap fun block => if block.kind = .list then block.children else []

mutual

/-- A bullet that is read off an item, inside items that begin on the lines `enclosing`. -/
inductive ReadItem (table : LineTable) (parts : Parts) :
    List Nat → Markdown.Block → ListItem → Prop where
  /-- Its number leads back to the line of the item, behind whose marker stands `rest`. Its text is
  what follows the first marker of the line. The bullets inside it are read off the items inside. -/
  | mk {enclosing : List Nat} {first last number : Nat} {nodes : List Markdown.Block}
    {text : String} {children : List ListItem} {line rest : List Char}
    (shown : Shown table parts first number line)
    (behind : AfterMarkers line (enclosing.count first + 1) rest)
    (own : text = String.ofList (trim rest) ↔
      enclosing.count first = 0 ∧ markBefore parts.body (first - 1) = [])
    (leading : markBefore parts.body (first - 1) = [] →
      ∃ after, AfterMarker line after ∧ text = String.ofList (trim after))
    (inner : ReadItems table parts (first :: enclosing) (itemNodes nodes) children) :
    ReadItem table parts enclosing (.node .item first last nodes) (.mk text number children)

/-- Bullets that are read off items, one off each. -/
inductive ReadItems (table : LineTable) (parts : Parts) :
    List Nat → List Markdown.Block → List ListItem → Prop where
  | nil {enclosing : List Nat} : ReadItems table parts enclosing [] []
  | cons {enclosing : List Nat} {node : Markdown.Block} {item : ListItem}
    {nodes : List Markdown.Block} {items : List ListItem}
    (first : ReadItem table parts enclosing node item)
    (more : ReadItems table parts enclosing nodes items) :
    ReadItems table parts enclosing (node :: nodes) (item :: items)

end

/-- A block that is read off a block of the structure. -/
structure ReadBlock (table : LineTable) (parts : Parts) (node : Markdown.Block) (block : Block) :
    Prop where
  first : block.startLine = node.firstLine + parts.offset
  last : block.endLine = node.lastLine + parts.offset
  covered : ∀ n, node.firstLine ≤ n → n ≤ node.lastLine →
    ∃ line, Shown table parts n (n + parts.offset) line
  heading : ∀ level text, block.content = .heading level text →
    text = String.ofList (bareHeading (table.textOf block.startLine))
  paragraph : ∀ text, block.content = .paragraph text →
    text = String.ofList (joinWith ['\n']
      ((List.range' block.startLine (block.endLine + 1 - block.startLine)).map
        (trim <| table.textOf ·)))
  items : ∀ items, block.content = .list items → ReadItems table parts [] node.children items
  /-- The lines of a code block are those that are shown, but for blanks at their head and null
  characters. -/
  code : ∀ info lines, block.content = .code info lines → ∀ number text, (number, text) ∈ lines →
    ∃ n line, Shown table parts n number line ∧
      text.toList.dropWhile isSpaceOrTab = (cleanLine line).dropWhile isSpaceOrTab

/-- Every line of the block structure is shown. -/
def AllShown (table : LineTable) (parts : Parts) : Prop :=
  ∀ i line, (bodyLines (unmarked parts.body))[i]? = some line →
    table.textOf (parts.offset + i + 1) = markBefore parts.body i ++ line

theorem ReadItems.append {table : LineTable} {parts : Parts} {enclosing : List Nat}
    {first second : List Markdown.Block} {before after : List ListItem}
    (hf : ReadItems table parts enclosing first before)
    (hs : ReadItems table parts enclosing second after) :
    ReadItems table parts enclosing (first ++ second) (before ++ after) := by
  induction first generalizing before with
  | nil =>
    cases hf
    exact hs
  | cons node nodes ih =>
    cases hf with
    | cons own more => exact .cons own (ih more)

theorem markBefore_cases (text : List Char) (i : Nat) :
    markBefore text i = [] ∨ markBefore text i = ['\uFEFF'] := by
  unfold markBefore
  split
  · exact (unmarked_cases text).imp And.left And.left
  · exact .inl rfl

section

variable {table : LineTable} {parts : Parts}

theorem readItems_itemsOf {enclosing : List Nat} {nodes : List Markdown.Block}
    (h : ∀ node ∈ nodes, ReadItem table parts enclosing node
      (bulletAt table parts.offset node.firstLine (nestedItems table parts.offset node.children))) :
    ReadItems table parts enclosing nodes (itemsOf table parts.offset nodes) := by
  induction nodes with
  | nil =>
    rw [itemsOf]
    exact .nil
  | cons node rest ih =>
    have own := h node List.mem_cons_self
    have later := ih fun other hm => h other (List.mem_cons_of_mem _ hm)
    obtain ⟨kind, first, last, children⟩ := node
    rw [itemsOf]
    exact .cons own later

theorem readItems_nestedItems {enclosing : List Nat} {nodes : List Markdown.Block}
    (h : ∀ node ∈ nodes, node.kind = .list → ReadItems table parts enclosing node.children
      (itemsOf table parts.offset node.children)) :
    ReadItems table parts enclosing (itemNodes nodes) (nestedItems table parts.offset nodes) := by
  induction nodes with
  | nil =>
    rw [nestedItems]
    exact .nil
  | cons node rest ih =>
    have own := h node List.mem_cons_self
    have later := ih fun other hm => h other (List.mem_cons_of_mem _ hm)
    obtain ⟨kind, first, last, children⟩ := node
    rw [itemNodes, List.flatMap_cons]
    by_cases list : kind = .list
    · subst list
      rw [nestedItems_list]
      exact (own rfl).append later
    · rw [nestedItems_other table parts.offset list]
      exact (congrArg (· ++ itemNodes rest) (if_neg list)).symm ▸ later

variable (h : AllShown table parts)
include h

theorem shown_of_clean {n : Nat} (first : 0 < n) {seen : List Char}
    (hl : (bodyLines (cleaned parts.body))[n - 1]? = some seen) :
    ∃ line, Shown table parts n (n + parts.offset) line ∧ cleanLine line = seen := by
  rw [bodyLines_cleaned, List.getElem?_map] at hl
  obtain ⟨line, hline, same⟩ := Option.map_eq_some_iff.1 hl
  have place : parts.offset + (n - 1) + 1 = n + parts.offset := by omega
  refine ⟨line, ⟨first, rfl, hline, ?_⟩, same⟩
  rw [← place]
  exact h (n - 1) line hline

/-- The items of a list and what is read off them. -/
theorem readItem_of_marked {enclosing : List Nat} {node : Markdown.Block}
    (marked : Marked (bodyLines (cleaned parts.body)) enclosing node) :
    (node.kind = .item → ReadItem table parts enclosing node
      (bulletAt table parts.offset node.firstLine (nestedItems table parts.offset node.children))) ∧
    (node.kind = .list → ReadItems table parts enclosing node.children
      (itemsOf table parts.offset node.children)) := by
  induction marked with
  | @item enclosing first last children own inner ih =>
    refine ⟨fun _ => ?_, by nofun⟩
    obtain ⟨begins, seen, rest, hl, taken⟩ := own
    obtain ⟨line, shown, rfl⟩ := shown_of_clean h begins hl
    obtain ⟨raw, behind, -⟩ := taken.of_cleanLine
    have text : bulletText (table.textOf (first + parts.offset)) =
        bulletText (markBefore parts.body (first - 1) ++ line) := congrArg _ shown.stands
    refine .mk shown behind ?_ (fun bare => ?_)
      (readItems_nestedItems fun child hc => (ih child hc).2)
    · rw [Markdown.Block.firstLine, text, String.ofList_inj]
      exact bulletText_iff behind (markBefore_cases _ _)
    · obtain ⟨after, leading, -⟩ := behind.first
      rw [bare, List.nil_append, bulletText_afterMarker leading] at text
      exact ⟨after, leading, congrArg String.ofList text⟩
  | @list enclosing first last children items inner ih =>
    exact ⟨by nofun,
      fun _ => readItems_itemsOf fun child hc => (ih child hc).1 (items child hc)⟩
  | other item list => exact ⟨fun own => absurd own item, fun own => absurd own list⟩

theorem readBlock_ofMarkdown {node : Markdown.Block}
    (within : node.Within (bodyLines (cleaned parts.body)))
    (marked : Marked (bodyLines (cleaned parts.body)) [] node)
    (literal : node.Literal (bodyLines (cleaned parts.body))) :
    ReadBlock table parts node (.ofMarkdown table parts.offset node) := by
  refine ⟨rfl, rfl, fun n hf hl => ?_, fun level text hc => ?_, fun text hc => ?_,
    fun items hi => ?_, fun info lines hc number text hm => ?_⟩
  · have begins := within.first
    have ends := within.last
    have inside : n - 1 < (bodyLines (cleaned parts.body)).length := by omega
    obtain ⟨line, shown, -⟩ := shown_of_clean h (Nat.lt_of_lt_of_le begins hf)
      (List.getElem?_eq_getElem inside)
    exact ⟨line, shown⟩
  · obtain ⟨kind, first, last, children⟩ := node
    cases kind <;> cases hc
    rfl
  · obtain ⟨kind, first, last, children⟩ := node
    cases kind <;> cases hc
    rfl
  · obtain ⟨kind, first, last, children⟩ := node
    cases kind with
    | list =>
      cases hi
      exact (readItem_of_marked h marked).2 rfl
    | _ => cases hi
  · obtain ⟨kind, first, last, children⟩ := node
    cases kind with
    | code fenced infoText texts =>
      cases hc
      obtain ⟨⟨own, i⟩, hz, same⟩ := List.mem_map.1 hm
      cases same
      obtain ⟨seen, hl, read⟩ :=
        literal fenced infoText texts rfl i own (List.mk_mem_zipIdx_iff_getElem?.1 hz)
      have begins : 0 < first := within.first
      have placed : ∀ n, 0 < n → (bodyLines (cleaned parts.body))[n - 1]? = some seen →
          ∃ n' line, Shown table parts n' (n + parts.offset) line ∧
            (String.ofList own).toList.dropWhile isSpaceOrTab =
              (cleanLine line).dropWhile isSpaceOrTab := by
        intro n hn hs
        obtain ⟨line, shown, rfl⟩ := shown_of_clean h hn hs
        exact ⟨n, line, shown, by rw [String.toList_ofList, read]⟩
      cases fenced with
      | false =>
        have place : first + i - 1 = first - 1 + i := by omega
        have number : first + parts.offset + i = first + i + parts.offset := by omega
        have shown := placed (first + i) (by omega) (place ▸ hl)
        rwa [← number] at shown
      | true =>
        have place : first + i + 1 - 1 = first + i := by omega
        have number : first + parts.offset + 1 + i = first + i + 1 + parts.offset := by omega
        have shown := placed (first + i + 1) (by omega) (place ▸ hl)
        rwa [← number] at shown
    | _ => cases hc

end

/-- The lines that the blocks of a document carry. All lines of the block structure are found in the
document exactly if returns are paired in its body; and then every block, bullet and line of code
carries the number of the line it was read off. -/
theorem lexed_lines {source : List Char} {document : Document}
    (h : Document.ofSource source = .ok document) :
    ∃ parts, partsOf source = .ok parts ∧
      (AllShown (LineTable.ofSource source) parts ↔ pairedReturns parts.body = true) ∧
      (pairedReturns parts.body = true →
        List.Forall₂ (ReadBlock (LineTable.ofSource source) parts) (Markdown.blocks parts.body)
          document.blocks) := by
  obtain ⟨parts, hp, same⟩ := blocks_ofSource h
  refine ⟨parts, hp, textOf_body_iff hp, fun paired => ?_⟩
  have shown := (textOf_body_iff hp).2 paired
  rw [same, blocksOf, List.forall₂_map_right_iff, List.forall₂_same]
  intro node hm
  obtain ⟨within, marked, literal⟩ := origins parts.body node hm
  exact readBlock_ofMarkdown shown within marked literal

/-- A document with a front matter, in which two items begin on one line. -/
def sharedLine : List Char := "---\n---\n- a\n  - - b\n".toList

theorem lexed_lines_sharedLine :
    ∃ document parts, Document.ofSource sharedLine = .ok document ∧
      partsOf sharedLine = .ok parts ∧ pairedReturns parts.body = true ∧
      List.Forall₂ (ReadBlock (LineTable.ofSource sharedLine) parts) (Markdown.blocks parts.body)
        document.blocks ∧
      document.blocks.map (·.content) =
        [.list [.mk "a" 3 [.mk "- b" 4 [.mk "- b" 4 []]]]] := by
  have cut : partsOf sharedLine = .ok ⟨some ⟨[], 2⟩, "- a\n  - - b\n".toList, 2⟩ := by rfl
  have lexed : Document.ofSource sharedLine = .ok ⟨{}, some (1, 2),
      blocksOf (LineTable.ofSource sharedLine) 2 "- a\n  - - b\n".toList⟩ := by rfl
  obtain ⟨parts, hp, -, read⟩ := lexed_lines lexed
  obtain rfl := Except.ok.inj (cut.symm.trans hp)
  exact ⟨_, _, lexed, cut, by decide, read (by decide), by decide +kernel⟩

/-- The inner item keeps the rest behind the marker of the outer one. -/
theorem sharedMarkers_text :
    AfterMarkers "- - a".toList 2 " a".toList ∧ trim " a".toList = ['a'] ∧
      (blocksOf (LineTable.ofSource "- - a".toList) 0 "- - a".toList).map (·.content) =
        [.list [.mk "- a" 1 [.mk "- a" 1 []]]] := by
  have outer : AfterMarker "- - a".toList " - a".toList :=
    ⟨[], ['-'], rfl, by nofun, .bullet '-' (by decide), fun c hc => by cases hc; rfl⟩
  have inner : AfterMarker " - a".toList " a".toList :=
    ⟨[' '], ['-'], rfl, by simp [isSpaceOrTab], .bullet '-' (by decide),
      fun c hc => by cases hc; rfl⟩
  exact ⟨.next (.next .start outer) inner, by decide, by decide +kernel⟩

end Dialect
end DocModel

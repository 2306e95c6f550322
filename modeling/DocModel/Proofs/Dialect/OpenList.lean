import DocModel.Dialect.Block
import DocModel.Proofs.Markdown.TextBullet

/-!
# DocModel.Proofs.Dialect.OpenList

A list while its bullets are read. `OpenList` says which bullets and nested bullets the open blocks
stand for, whatever text the bullets hold; there is one lemma for each line that may come next.

* `readLine_first`, `readLine_name` and `readLine_property` for the line of a bullet;
* `OpenList.blank` and `OpenList.heading` for the lines after the last bullet;
* `OpenList.closeAll` for the end of the text.
-/

namespace DocModel
namespace Dialect

open Markdown

section

variable (table : LineTable) (offset : Nat)

/-- The bullet on a line of the body. -/
def bulletAt (line : Nat) (children : List ListItem) : ListItem :=
  .mk (String.ofList (bulletText (table.textOf (line + offset)))) (line + offset) children

theorem itemsOf_append (first second : List Markdown.Block) :
    itemsOf table offset (first ++ second) =
      itemsOf table offset first ++ itemsOf table offset second := by
  induction first with
  | nil => rw [itemsOf, List.nil_append, List.nil_append]
  | cons block rest ih =>
    obtain ⟨kind, start, stop, children⟩ := block
    simp only [List.cons_append, itemsOf, ih]

theorem nestedItems_list (first last : Nat) (children more : List Markdown.Block) :
    nestedItems table offset (.node .list first last children :: more) =
      itemsOf table offset children ++ nestedItems table offset more := by
  rw [nestedItems]

theorem nestedItems_other {kind : BlockKind} (h : kind ≠ .list) (first last : Nat)
    (children more : List Markdown.Block) :
    nestedItems table offset (.node kind first last children :: more) =
      nestedItems table offset more := by
  cases kind with
  | list => exact absurd rfl h
  | _ => simp only [nestedItems, List.nil_append]

theorem nestedItems_plain_append {blocks : List Markdown.Block} (h : Plain blocks)
    (more : List Markdown.Block) :
    nestedItems table offset (blocks ++ more) = nestedItems table offset more := by
  induction blocks with
  | nil => rw [List.nil_append]
  | cons block rest ih =>
    obtain ⟨kind, first, last, children⟩ := block
    have other : kind ≠ .list := h _ List.mem_cons_self
    rw [List.cons_append, nestedItems_other table offset other]
    exact ih fun node hm => h node (List.mem_cons_of_mem _ hm)

theorem nestedItems_plain {blocks : List Markdown.Block} (h : Plain blocks) :
    nestedItems table offset blocks = [] := by
  have whole := nestedItems_plain_append table offset h []
  rwa [List.append_nil, nestedItems] at whole

end

/-! ## A list -/

/-- The open blocks of a list below finished blocks. Its bullets are `done`, the last one begins on
`line`, and its nested bullets are the index. -/
inductive OpenList (table : LineTable) (offset : Nat) (finished : List Markdown.Block)
    (done : List ListItem) (line : Nat) : List ListItem → List OpenBlock → Prop where
  /-- The last line is that of a bullet. -/
  | name {first : Nat} {items : List Markdown.Block} {chain : List OpenBlock} :
      itemsOf table offset items.reverse = done →
      TextBullet line [openBullets first items, document finished] chain →
      OpenList table offset finished done line [] chain
  /-- The last line is that of a nested bullet. -/
  | property {first start sub : Nat} {items inner blocks : List Markdown.Block}
      {before : List ListItem} {chain : List OpenBlock} :
      itemsOf table offset items.reverse = done → Plain blocks →
      itemsOf table offset inner.reverse = before →
      TextBullet sub [openBullets start inner, openBullet line blocks, openBullets first items,
        document finished] chain →
      OpenList table offset finished done line (before ++ [bulletAt table offset sub []]) chain

namespace OpenList

variable {table : LineTable} {offset : Nat} {finished : List Markdown.Block}
  {done nested : List ListItem} {line n : Nat} {chain : List OpenBlock} {text : List Char}

/-- A bullet with a list is finished into the list around it. -/
theorem closeHeads_nested (closing : Closing) (start line first : Nat)
    (inner blocks items : List Markdown.Block) (outer : List OpenBlock) :
    ∃ last stop, closeHeads closing 2
        (openBullets start inner :: openBullet line blocks :: openBullets first items :: outer) =
      openBullets first (.node .item line last (.node .list start stop inner.reverse ::
        blocks).reverse :: items) :: outer :=
  ⟨_, _, rfl⟩

theorem close (h : OpenList table offset finished done line nested chain) (closing : Closing) :
    ∃ first items, closeHeads closing (chain.length - 2) chain =
        [openBullets first items, document finished] ∧
      itemsOf table offset items.reverse = done ++ [bulletAt table offset line nested] := by
  cases h with
  | @name first items chain hd ht =>
    obtain ⟨last, blocks, hp, closed⟩ := ht.close closing
    refine ⟨first, .node .item line last blocks :: items, closed, ?_⟩
    rw [List.reverse_cons, itemsOf_append, hd, itemsOf, nestedItems_plain table offset hp, itemsOf]
    rfl
  | @property first start sub items inner blocks before chain hd hb hi ht =>
    obtain ⟨last, plain, hp, closed⟩ := ht.close closing
    obtain ⟨stop, fin, outer⟩ := closeHeads_nested closing start line first
      (.node .item sub last plain :: inner) blocks items [document finished]
    have long := ht.length_le
    simp only [List.length_cons, List.length_nil] at long closed
    have count : chain.length - 2 = chain.length - 4 + 2 := by omega
    have nestedEnd : itemsOf table offset
        ((.node .item sub last plain :: inner : List Markdown.Block)).reverse =
          before ++ [bulletAt table offset sub []] := by
      rw [List.reverse_cons, itemsOf_append, hi, itemsOf, nestedItems_plain table offset hp,
        itemsOf]
      rfl
    rw [count, closeHeads_add, closed]
    refine ⟨first, _, outer, ?_⟩
    rw [List.reverse_cons, itemsOf_append, hd, itemsOf, List.reverse_cons,
      nestedItems_plain_append table offset hb.reverse, nestedItems_list, nestedEnd, nestedItems,
      List.append_nil, itemsOf]
    rfl

/-- A line that is not indented does not belong to the last bullet. -/
theorem outside (h : OpenList table offset finished done line nested chain) {cur : Cursor}
    (hi : cur.indent < 2) (hb : cur.isBlank = false) :
    ∃ first items pending, itemsOf table offset items.reverse = done ∧
      chain = pending.reverse ++ [openBullets first items, document finished] ∧
      descend [document finished] (openBullets first items :: pending) cur =
        .reached ⟨[openBullets first items, document finished], pending, cur, false⟩ := by
  cases h with
  | @name first items chain hd ht =>
    obtain ⟨pending, same, reached⟩ := ht.outside hi hb
    exact ⟨first, items, pending, hd, same, reached _⟩
  | @property first start sub items inner blocks before chain hd hp hn ht =>
    obtain ⟨pending, same, -⟩ := ht.outside hi hb
    refine ⟨first, items, openBullet line blocks :: openBullets start inner :: pending, hd, ?_, ?_⟩
    · rw [same, List.reverse_cons, List.reverse_cons, List.append_assoc, List.append_assoc]
      rfl
    · have next : ∀ hasChild, (openBullets first items).continues hasChild cur = .within cur :=
        fun _ => rfl
      rw [descend, next]
      dsimp only
      rw [descend, continues_bullet_outside hi hb]

theorem filled_name (h : OpenList table offset finished done line nested chain)
    (hp : PlainText text) (hr : BreaksRule text) :
    ∃ first items,
      itemsOf table offset items.reverse = done ++ [bulletAt table offset line nested] ∧
      Filled n [openBullets first items, document finished] text
        (readLine chain n (hyphenLine text)) := by
  have shallow : Cursor.indent { rest := hyphenLine text } < 2 := by
    rw [hyphenLine, indent_cons rfl]
    decide
  obtain ⟨first, items, pending, hd, same, reached⟩ := h.outside shallow (isBlank_cons rfl)
  obtain ⟨start, closed, settled, read⟩ := h.close (.onLine n)
  have count : chain.length - 2 = pending.length := by
    rw [same, List.length_append, List.length_reverse]
    exact Nat.add_sub_cancel ..
  rw [count, same] at settled
  have outermost : chain.reverse = document finished :: openBullets first items :: pending := by
    rw [same, List.reverse_append, List.reverse_reverse]
    rfl
  rw [readLine_eq outermost, reached]
  refine ⟨start, closed, read, ?_⟩
  exact settle_bullet rfl hp hr (openItem_same hp settled) (two_le_length_hyphenLine text) _ _

end OpenList

section

variable {table : LineTable} {offset : Nat} {finished : List Markdown.Block}
  {done nested : List ListItem} {line n : Nat} {outer chain : List OpenBlock} {text : List Char}

theorem filled_first (hp : PlainText text) (hr : BreaksRule text) :
    Filled n [openBullets n [], document finished] text
      (readLine [document finished] n (hyphenLine text)) := by
  rw [@readLine_eq _ (document finished) [] rfl]
  refine settle_bullet rfl hp hr (fun _ => ?_) (two_le_length_hyphenLine text) _ _
  exact openItem_new hp rfl rfl _

/-- Whether the innermost block leaves the markers of the next line alone. -/
def takesMarkers (chain : List OpenBlock) : Bool :=
  chain.head?.all fun block => !block.kind.isVerbatim

theorem takesMarkers_of_filled (h : Filled line outer text chain)
    (hm : mayBeVerbatim text = false) : takesMarkers chain = true := by
  cases h with
  | leaf block _ mark =>
    cases hv : block.kind.isVerbatim with
    | true => rw [mark hv] at hm; cases hm
    | false => simp [takesMarkers, hv]
  | html node _ mark => rw [mark] at hm; cases hm

/-- The line of a nested bullet. -/
def nestedLine (text : List Char) : List Char := ' ' :: ' ' :: hyphenLine text

/-- A line that is indented by two columns belongs to a bullet. -/
theorem continues_bullet_nested (text : List Char) (first : Nat) (blocks : List Markdown.Block)
    (hasChild : Bool) :
    (openBullet first blocks).continues hasChild { rest := nestedLine text } =
      .within ⟨hyphenLine text, 2, false⟩ := rfl

/-- A list opened in a bullet ends the text of the bullet. -/
theorem openChild_list_leaf {leaf : OpenBlock} (hl : leaf.kind.isLeaf = true)
    (blocks : List Markdown.Block) :
    openChild n (.list (.bullet '-')) (leaf :: openBullet line blocks :: outer) =
      openBullets n [] :: openBullet line
        ((leaf.finish ((Closing.onLine n).lastLine leaf.kind)).toList ++ blocks) :: outer := by
  obtain ⟨kind, start, lines, children⟩ := leaf
  cases kind <;> first | rfl | cases hl

theorem filled_nested {first : Nat} {items : List Markdown.Block}
    (h : TextBullet line [openBullets first items, document finished] chain)
    (free : takesMarkers chain = true) (hp : PlainText text) (hr : BreaksRule text) :
    ∃ blocks, Plain blocks ∧
      Filled n [openBullets n [], openBullet line blocks, openBullets first items,
        document finished] text (readLine chain n (nestedLine text)) := by
  have list : ∀ hasChild, (openBullets first items).continues hasChild
      { rest := nestedLine text } = .within { rest := nestedLine text } := fun _ => rfl
  have long : 2 ≤ (nestedLine text).length := by
    simp only [nestedLine, List.length_cons]
    omega
  cases h with
  | @done blocks plain =>
    refine ⟨blocks, plain, ?_⟩
    rw [@readLine_eq _ (document finished) [openBullets first items, openBullet line blocks] rfl]
    simp only [descend, list, continues_bullet_nested]
    refine settle_bullet rfl hp hr (fun _ => ?_) long _ _
    exact openItem_new hp rfl rfl _
  | @leaf leaf blocks hl plain =>
    rw [@readLine_eq _ (document finished)
      [openBullets first items, openBullet line blocks, leaf] rfl]
    simp only [descend, list, continues_bullet_nested]
    refine ⟨(leaf.finish ((Closing.onLine n).lastLine leaf.kind)).toList ++ blocks,
      (plain_finish hl _).append plain, ?_⟩
    have visible : Cursor.isBlank ⟨hyphenLine text, 2, false⟩ = false := isBlank_cons rfl
    obtain ⟨kind, start, lines, children⟩ := leaf
    cases kind with
    | paragraph noTable =>
      simp only [OpenBlock.continues, visible, Bool.false_eq_true, if_false]
      refine settle_bullet rfl hp hr (fun _ => ?_) long _ _
      exact openItem_new hp rfl (openChild_list_leaf hl blocks) _
    | rule =>
      simp only [OpenBlock.continues]
      refine settle_bullet rfl hp hr (fun _ => ?_) long _ _
      exact openItem_new hp rfl (openChild_list_leaf hl blocks) _
    | heading level =>
      simp only [OpenBlock.continues]
      refine settle_bullet rfl hp hr (fun _ => ?_) long _ _
      exact openItem_new hp rfl rfl _
    | fenced | indented | html => cases free
    | _ => cases hl

theorem filled_next {first start sub : Nat} {items inner blocks : List Markdown.Block}
    (h : TextBullet sub [openBullets start inner, openBullet line blocks, openBullets first items,
      document finished] chain) (hp : PlainText text) (hr : BreaksRule text) :
    ∃ last plain, Plain plain ∧
      Filled n [openBullets start (.node .item sub last plain :: inner), openBullet line blocks,
        openBullets first items, document finished] text (readLine chain n (nestedLine text)) := by
  have list : ∀ first items hasChild, (openBullets first items).continues hasChild
      { rest := nestedLine text } = .within { rest := nestedLine text } := fun _ _ _ => rfl
  have inside : ∀ first items hasChild, (openBullets first items).continues hasChild
      ⟨hyphenLine text, 2, false⟩ = .within ⟨hyphenLine text, 2, false⟩ := fun _ _ _ => rfl
  have long : 2 ≤ (nestedLine text).length := by
    simp only [nestedLine, List.length_cons]
    omega
  have shallow : Cursor.indent ⟨hyphenLine text, 2, false⟩ < 2 := by
    rw [hyphenLine, indent_cons rfl]
    decide
  obtain ⟨pending, same, reached⟩ := h.outside shallow (isBlank_cons rfl)
  obtain ⟨last, plain, hplain, closed⟩ := h.close (.onLine n)
  have outermost : chain.reverse = document finished :: openBullets first items ::
      openBullet line blocks :: openBullets start inner :: pending := by
    rw [same, List.reverse_append, List.reverse_reverse]
    rfl
  have count : chain.length - 4 = pending.length := by
    rw [same, List.length_append, List.length_reverse]
    exact Nat.add_sub_cancel ..
  simp only [List.length_cons, List.length_nil, Nat.zero_add, Nat.reduceAdd, count] at closed
  rw [same] at closed
  refine ⟨last, plain, hplain, ?_⟩
  rw [readLine_eq outermost]
  simp only [descend, list, continues_bullet_nested, inside, reached]
  exact settle_bullet rfl hp hr (openItem_same hp closed) long _ _

end

/-! ## Lines of a list -/

namespace OpenList

variable {table : LineTable} {offset : Nat} {finished : List Markdown.Block}
  {done nested : List ListItem} {line n : Nat} {chain : List OpenBlock} {text : List Char}

theorem readLine_first (hp : PlainText text) (hr : BreaksRule text)
    (hm : mayBeVerbatim text = false) :
    OpenList table offset finished [] n [] (readLine [document finished] n (hyphenLine text)) ∧
      isStarted (readLine [document finished] n (hyphenLine text)) = true ∧
      takesMarkers (readLine [document finished] n (hyphenLine text)) = true := by
  have filled := @filled_first finished n text hp hr
  exact ⟨.name (by rw [List.reverse_nil, itemsOf]) (.of_filled filled), isStarted_of_filled filled,
    takesMarkers_of_filled filled hm⟩

theorem readLine_name (h : OpenList table offset finished done line nested chain)
    (hp : PlainText text) (hr : BreaksRule text) (hm : mayBeVerbatim text = false) :
    OpenList table offset finished (done ++ [bulletAt table offset line nested]) n []
        (readLine chain n (hyphenLine text)) ∧
      isStarted (readLine chain n (hyphenLine text)) = true ∧
      takesMarkers (readLine chain n (hyphenLine text)) = true := by
  obtain ⟨first, items, read, filled⟩ := h.filled_name (n := n) hp hr
  exact ⟨.name read (.of_filled filled), isStarted_of_filled filled,
    takesMarkers_of_filled filled hm⟩

theorem readLine_property (h : OpenList table offset finished done line nested chain)
    (free : nested = [] → takesMarkers chain = true) (hp : PlainText text) (hr : BreaksRule text) :
    OpenList table offset finished done line (nested ++ [bulletAt table offset n []])
        (readLine chain n (nestedLine text)) ∧
      isStarted (readLine chain n (nestedLine text)) = true := by
  cases h with
  | name hd ht =>
    obtain ⟨blocks, plain, filled⟩ := filled_nested (n := n) ht (free rfl) hp hr
    exact ⟨.property hd plain (by rw [List.reverse_nil, itemsOf]) (.of_filled filled),
      isStarted_of_filled filled⟩
  | property hd hb hi ht =>
    obtain ⟨last, plain, hplain, filled⟩ := filled_next (n := n) ht hp hr
    refine ⟨.property hd hb ?_ (.of_filled filled), isStarted_of_filled filled⟩
    rw [List.reverse_cons, itemsOf_append, hi, itemsOf, nestedItems_plain table offset hplain,
      itemsOf]
    rfl

theorem readLine_blank (h : OpenList table offset finished done line nested chain)
    (started : isStarted chain = true) :
    OpenList table offset finished done line nested (readLine chain n []) := by
  have list : ∀ first items hasChild, (openBullets first items).continues hasChild
      { rest := [] } = .within { rest := [] } := fun _ _ _ => rfl
  cases h with
  | @name first items chain hd ht =>
    obtain ⟨pending, -, same, settled⟩ :=
      ht.blank started n (chain.head?.any (·.kind.isParagraph))
    have outermost : chain.reverse = document finished :: openBullets first items :: pending := by
      rw [same, List.reverse_append, List.reverse_reverse]
      rfl
    refine @OpenList.name _ _ _ _ _ first _ _ hd ?_
    rw [readLine_eq outermost, descend, list]
    exact settled
  | @property first start sub items inner blocks before chain hd hb hi ht =>
    obtain ⟨pending, -, same, settled⟩ :=
      ht.blank started n (chain.head?.any (·.kind.isParagraph))
    have outermost : chain.reverse = document finished :: openBullets first items ::
        openBullet line blocks :: openBullets start inner :: pending := by
      rw [same, List.reverse_append, List.reverse_reverse]
      rfl
    refine @OpenList.property _ _ _ _ _ first start _ _ _ _ _ _ hd hb hi ?_
    rw [readLine_eq outermost, descend, list]
    dsimp only
    rw [descend, List.isEmpty_cons, Bool.not_false, Bool.or_true, continues_bullet_blank]
    dsimp only
    rw [descend, list]
    exact settled

theorem readLine_heading (h : OpenList table offset finished done line nested chain) {level : Nat}
    (hl : headingLevel? text = some level) :
    ∃ first last items, readLine chain n text = [{ kind := .heading level, firstLine := n },
        document (.node .list first last items :: finished)] ∧
      itemsOf table offset items = done ++ [bulletAt table offset line nested] := by
  obtain ⟨rest, hash⟩ := head_of_headingLevel? hl
  have shallow : Cursor.indent { rest := text } < 2 := by
    rw [hash, indent_cons rfl]
    decide
  have visible : Cursor.isBlank { rest := text } = false := by
    rw [hash]
    exact isBlank_cons rfl
  obtain ⟨first, items, pending, hd, same, reached⟩ := h.outside shallow visible
  obtain ⟨start, closed, settled, read⟩ := h.close (.onLine n)
  have count : chain.length - 2 = pending.length := by
    rw [same, List.length_append, List.length_reverse]
    exact Nat.add_sub_cancel ..
  have outermost : chain.reverse = document finished :: openBullets first items :: pending := by
    rw [same, List.reverse_append, List.reverse_reverse]
    rfl
  rw [count, same] at settled
  rw [readLine_eq outermost, reached, settle_heading hl rfl, settled]
  exact ⟨start, _, closed.reverse, rfl, read⟩

theorem closeAll (h : OpenList table offset finished done line nested chain) (closing : Closing) :
    ∃ first last items, Markdown.closeAll closing chain =
        [document (.node .list first last items :: finished)] ∧
      itemsOf table offset items = done ++ [bulletAt table offset line nested] := by
  obtain ⟨start, closed, settled, read⟩ := h.close closing
  have long : 3 ≤ chain.length := by
    cases h with
    | name hd ht => exact ht.length_le
    | property hd hb hi ht =>
      have long := ht.length_le
      simp only [List.length_cons, List.length_nil] at long
      omega
  have count : chain.length - 1 = chain.length - 2 + 1 := by omega
  rw [Markdown.closeAll, count, closeHeads_add, settled]
  exact ⟨start, _, closed.reverse, rfl, read⟩

end OpenList

/-! ## Whole lists -/

/-- A bullet as it is written: its text, and the texts of the bullets nested in it. -/
abbrev WrittenBullet := List Char × List (List Char)

def bulletLines (bullet : WrittenBullet) : List (List Char) :=
  hyphenLine bullet.1 :: bullet.2.map nestedLine

/-- A bullet whose texts stay texts. -/
structure PlainBullet (bullet : WrittenBullet) : Prop where
  text : PlainText bullet.1
  /-- Its line is no rule. -/
  breaks : BreaksRule bullet.1
  /-- Its text leaves the markers of the next line alone. -/
  free : mayBeVerbatim bullet.1 = false
  nested : ∀ text ∈ bullet.2, PlainText text ∧ BreaksRule text

/-- A number of nested bullets on the lines from `n` on. -/
def nestedFrom (table : LineTable) (offset n count : Nat) : List ListItem :=
  (List.range' n count).map fun line => bulletAt table offset line []

/-- Bullets on the lines from `n` on. -/
def bulletsFrom (table : LineTable) (offset : Nat) : Nat → List WrittenBullet → List ListItem
  | _, [] => []
  | n, bullet :: more =>
    bulletAt table offset n (nestedFrom table offset (n + 1) bullet.2.length) ::
      bulletsFrom table offset (n + 1 + bullet.2.length) more

section

variable {table : LineTable} {offset : Nat} {finished : List Markdown.Block}
  {done nested : List ListItem} {line n : Nat} {chain : List OpenBlock}

theorem readLines_nested (h : OpenList table offset finished done line nested chain)
    (free : nested = [] → takesMarkers chain = true) (started : isStarted chain = true)
    {texts : List (List Char)} (ht : ∀ text ∈ texts, PlainText text ∧ BreaksRule text) :
    OpenList table offset finished done line (nested ++ nestedFrom table offset n texts.length)
        (readLines chain n (texts.map nestedLine)) ∧
      isStarted (readLines chain n (texts.map nestedLine)) = true := by
  induction texts generalizing nested chain n with
  | nil => exact ⟨by rwa [nestedFrom, List.length_nil, List.range'_zero, List.map_nil,
      List.append_nil], started⟩
  | cons text more ih =>
    obtain ⟨plain, breaks⟩ := ht text List.mem_cons_self
    obtain ⟨next, started⟩ := h.readLine_property (n := n) free plain breaks
    have rest := ih (n := n + 1) next (fun empty => by simp at empty) started
      fun text hm => ht text (List.mem_cons_of_mem _ hm)
    rw [List.append_assoc] at rest
    exact rest

/-- The lines of a bullet and of those nested in it, the first of which is read. -/
theorem readLines_rest {bullet : WrittenBullet} (hb : PlainBullet bullet)
    (h : OpenList table offset finished done n [] chain) (free : takesMarkers chain = true)
    (started : isStarted chain = true) :
    OpenList table offset finished done n (nestedFrom table offset (n + 1) bullet.2.length)
        (readLines chain (n + 1) (bullet.2.map nestedLine)) ∧
      isStarted (readLines chain (n + 1) (bullet.2.map nestedLine)) = true :=
  readLines_nested h (fun _ => free) started hb.nested

theorem readLines_bullet_cons (chain : List OpenBlock) (n : Nat) (bullet : WrittenBullet)
    (more : List WrittenBullet) :
    readLines chain n ((bullet :: more).flatMap bulletLines) =
      readLines (readLines (readLine chain n (hyphenLine bullet.1)) (n + 1)
        (bullet.2.map nestedLine)) (n + 1 + bullet.2.length) (more.flatMap bulletLines) := by
  rw [List.flatMap_cons, bulletLines, List.cons_append, readLines, readLines_append,
    List.length_map]

theorem readLines_bullets (h : OpenList table offset finished done line nested chain)
    (started : isStarted chain = true) {bullets : List WrittenBullet}
    (hb : ∀ bullet ∈ bullets, PlainBullet bullet) :
    ∃ before last inner,
      OpenList table offset finished before last inner
        (readLines chain n (bullets.flatMap bulletLines)) ∧
      isStarted (readLines chain n (bullets.flatMap bulletLines)) = true ∧
      before ++ [bulletAt table offset last inner] =
        done ++ [bulletAt table offset line nested] ++ bulletsFrom table offset n bullets := by
  induction bullets generalizing done line nested chain n with
  | nil => exact ⟨done, line, nested, h, started, (List.append_nil _).symm⟩
  | cons bullet more ih =>
    have plain := hb bullet List.mem_cons_self
    obtain ⟨opened, started, free⟩ := h.readLine_name (n := n) plain.text plain.breaks plain.free
    obtain ⟨filled, started⟩ := readLines_rest plain opened free started
    obtain ⟨before, last, inner, rest, started, same⟩ :=
      ih (n := n + 1 + bullet.2.length) filled started fun b hm => hb b (List.mem_cons_of_mem _ hm)
    rw [readLines_bullet_cons]
    refine ⟨before, last, inner, rest, started, ?_⟩
    rw [same, bulletsFrom, List.append_assoc, List.singleton_append]

theorem readLines_list {bullets : List WrittenBullet} (some : bullets ≠ [])
    (hb : ∀ bullet ∈ bullets, PlainBullet bullet) :
    ∃ before last inner,
      OpenList table offset finished before last inner
        (readLines [document finished] n (bullets.flatMap bulletLines)) ∧
      isStarted (readLines [document finished] n (bullets.flatMap bulletLines)) = true ∧
      before ++ [bulletAt table offset last inner] = bulletsFrom table offset n bullets := by
  obtain ⟨bullet, more, rfl⟩ := List.exists_cons_of_ne_nil some
  have plain := hb bullet List.mem_cons_self
  obtain ⟨opened, started, free⟩ := @OpenList.readLine_first table offset finished n bullet.1
    plain.text plain.breaks plain.free
  obtain ⟨filled, started⟩ := readLines_rest plain opened free started
  obtain ⟨before, last, inner, rest, started, same⟩ :=
    readLines_bullets (n := n + 1 + bullet.2.length) filled started
      fun b hm => hb b (List.mem_cons_of_mem _ hm)
  rw [readLines_bullet_cons]
  refine ⟨before, last, inner, rest, started, ?_⟩
  rw [same, bulletsFrom]
  rfl

end

end Dialect
end DocModel

import DocModel.Proofs.Markdown.Lines

/-!
# DocModel.Proofs.Markdown.Bullets

What a line with a hyphen does to the open blocks: it opens a bullet, and its text fills it.

* `openBullet` and `openBullets` are the open item and the open list of such lines;
* `settle_bullet` opens the bullet, `Filled` is what its text makes of it;
* `readLine_name`, `readLine_property` read a line on each of the two levels.
-/

namespace DocModel
namespace Markdown

/-- An open item whose later lines are indented by two columns. -/
def openBullet (first : Nat) (blocks : List Block) : OpenBlock :=
  { kind := .item 2, firstLine := first, children := blocks }

/-- An open list of items with hyphens. -/
def openBullets (first : Nat) (items : List Block) : OpenBlock :=
  { kind := .list (.bullet '-'), firstLine := first, children := items }

/-- A block that holds no other block and takes text, or none at all. -/
def OpenKind.isLeaf : OpenKind → Bool
  | .paragraph _ => true
  | .heading _ => true
  | .fenced _ _ _ => true
  | .indented => true
  | .html _ => true
  | .rule => true
  | _ => false

/-- A text that stays a text after the marker of an item: it begins with a visible character and
opens neither a list nor a quotation. -/
structure PlainText (text : List Char) : Prop where
  /-- It begins with a visible character. -/
  visible : ∃ c rest, text = c :: rest ∧ isSpaceOrTab c = false
  quote : text.head? ≠ some '>'
  list : listMarker? false text = none

/-- Whether a text begins like raw HTML or like a fence. -/
def mayBeVerbatim (text : List Char) : Bool :=
  text.head?.any fun c => c == '<' || c == '\x60' || c == '~'

/-- What the text of a new bullet on a line makes of it. -/
inductive Filled (line : Nat) (outer : List OpenBlock) (text : List Char) :
    List OpenBlock → Prop where
  /-- It opens a block without blocks. -/
  | leaf (block : OpenBlock) : block.kind.isLeaf = true →
      (block.kind.isVerbatim = true → mayBeVerbatim text = true) →
      Filled line outer text (block :: openBullet line [] :: outer)
  /-- It opens and ends raw HTML. -/
  | html (node : Block) : node.kind ≠ .list → mayBeVerbatim text = true →
      Filled line outer text (openBullet line [node] :: outer)

section

variable {line : Nat} {outer : List OpenBlock}

/-- A block is opened in a bullet unless it is an item. -/
theorem openChild_bullet {kind : OpenKind} (hk : ∀ width, kind ≠ .item width) (first : Nat)
    (blocks : List Block) :
    openChild line kind (openBullet first blocks :: outer) =
      { kind, firstLine := line } :: openBullet first blocks :: outer := by
  cases kind with
  | item width => exact absurd rfl (hk width)
  | _ => rfl

theorem openingFence?_cons {c : Char} {rest : List Char}
    (h : mayBeVerbatim (c :: rest) = false) : openingFence? (c :: rest) = none := by
  simp only [mayBeVerbatim, List.head?_cons, Option.any_some, Bool.or_eq_false_iff,
    beq_eq_false_iff_ne] at h
  simp [openingFence?, runLength_cons_ne h.1.2, runLength_cons_ne h.2]

theorem openingKind?_cons {c : Char} {rest : List Char} (h : mayBeVerbatim (c :: rest) = false)
    (inParagraph : Bool) : openingKind? inParagraph (c :: rest) = none := by
  simp only [mayBeVerbatim, List.head?_cons, Option.any_some, Bool.or_eq_false_iff,
    beq_eq_false_iff_ne] at h
  unfold openingKind?
  split
  · next heq => exact absurd (List.cons.inj heq).1 h.1.1
  · rfl

theorem opened_bullet {kind : OpenKind} (hk : ∀ width, kind ≠ .item width) (first : Nat)
    (blocks : List Block) (cur next : Cursor) (lazy : Bool) :
    LineState.opened ⟨openBullet first blocks :: outer, [], cur, lazy⟩ line kind next =
      ⟨{ kind, firstLine := line } :: openBullet first blocks :: outer, [], next, false⟩ := by
  rw [LineState.opened]
  exact congrArg (LineState.mk · [] next false) (openChild_bullet hk first blocks)

/-- A block without blocks that takes no text of the line stays as it is. -/
theorem finishLine_leaf {block : OpenBlock} (hv : block.kind.isVerbatim = false) (cur : Cursor)
    (lazy : Bool) :
    finishLine line ⟨block :: outer, [], cur.skipAll, lazy⟩ = block :: outer := by
  rw [finishLine]
  simp only [List.reverse_nil]
  rw [addText_cons hv, isBlank_skipAll, if_pos rfl]

theorem filled_of_plain {text : List Char} (h : PlainText text) (fuel depth column : Nat)
    (lazy : Bool) :
    Filled line outer text
      (finishLine line (openBlocks line (fuel + 2) depth
        ⟨openBullet line [] :: outer, [], ⟨text, column, false⟩, lazy⟩)) := by
  obtain ⟨⟨c, rest, rfl, visible⟩, quote, list⟩ := h
  have step := @openStep_cons ⟨openBullet line [] :: outer, [], ⟨c :: rest, column, false⟩, lazy⟩
    (openBullet line []) outer rfl line depth
  have noQuote : ((c :: rest).head? == some '>') = false := by simpa using quote
  have noParagraph : (openBullet line []).kind.isParagraph = false := rfl
  have shallow : ¬ 4 ≤ 0 := by decide
  simp only [indent_cons visible, text_cons visible, noQuote, noParagraph, Bool.false_eq_true,
    if_false, list, shallow] at step
  cases heading : headingLevel? (c :: rest) with
  | some level =>
    simp only [heading] at step
    rw [openBlocks_last rfl rfl _ step, opened_bullet (fun _ h => by cases h), finishLine_leaf rfl]
    exact .leaf _ rfl fun h => by cases h
  | none =>
  cases fence : openingFence? (c :: rest) with
  | some opening =>
    obtain ⟨mark, length⟩ := opening
    simp only [heading, fence] at step
    rw [openBlocks_last rfl rfl _ step, opened_bullet (fun _ h => by cases h)]
    refine .leaf _ rfl fun _ => ?_
    cases plain : mayBeVerbatim (c :: rest) with
    | true => rfl
    | false => rw [openingFence?_cons plain] at fence; cases fence
  | none =>
  cases html : openingKind? false (c :: rest) with
  | some kind =>
    simp only [heading, fence, html] at step
    rw [openBlocks_opened rfl rfl _ step, opened_bullet (fun _ h => by cases h)]
    have verbatim : openBlocks line (fuel + 1) (depth + 1)
        ⟨{ kind := .html kind, firstLine := line } :: openBullet line [] :: outer, [],
          ⟨c :: rest, column, false⟩, false⟩ =
        ⟨{ kind := .html kind, firstLine := line } :: openBullet line [] :: outer, [],
          ⟨c :: rest, column, false⟩, false⟩ := rfl
    have mark : mayBeVerbatim (c :: rest) = true := by
      cases plain : mayBeVerbatim (c :: rest) with
      | true => rfl
      | false => rw [openingKind?_cons plain] at html; cases html
    rw [verbatim, finishLine]
    simp only [List.reverse_nil, addText]
    split
    · exact .html _ (fun h => by cases h) mark
    · exact .leaf _ rfl fun _ => mark
  | none =>
  simp only [heading, fence, html] at step
  by_cases rule : isRule (c :: rest) = true
  · rw [if_pos rule] at step
    rw [openBlocks_opened rfl rfl _ step, opened_bullet (fun _ h => by cases h),
      openBlocks_blank _ rfl, finishLine_leaf rfl]
    exact .leaf _ rfl fun h => by cases h
  · rw [if_neg rule] at step
    rw [openBlocks_done rfl rfl _ step, finishLine]
    simp only [List.reverse_nil]
    rw [addText_cons rfl, isBlank_cons visible, openChild_bullet (fun _ h => by cases h)]
    exact .leaf _ rfl fun h => by cases h

end

/-! ## The marker -/

/-- The line of a bullet with a text. -/
def hyphenLine (text : List Char) : List Char := '-' :: ' ' :: text

/-- A text that is no rule after a hyphen. -/
def BreaksRule (text : List Char) : Prop := ∃ c ∈ text, c ≠ '-' ∧ isSpaceOrTab c = false

theorem isRule_hyphenLine {text : List Char} (h : BreaksRule text) :
    isRule (hyphenLine text) = false := by
  obtain ⟨c, hm, hh, hb⟩ := h
  have stops : (hyphenLine text).all (fun d => d == '-' || isSpaceOrTab d) = false := by
    rw [List.all_eq_false]
    exact ⟨c, List.mem_cons_of_mem _ (List.mem_cons_of_mem _ hm), by simp [hh, hb]⟩
  rw [hyphenLine] at stops ⊢
  rw [isRule, stops, Bool.and_false, Bool.false_and]

theorem onlySpaces_of_breaksRule {text : List Char} (h : BreaksRule text) :
    onlySpaces text = false := by
  obtain ⟨c, hm, -, hb⟩ := h
  rw [onlySpaces, List.all_eq_false]
  exact ⟨c, hm, by simp [hb]⟩

theorem two_le_length_hyphenLine (text : List Char) : 2 ≤ (hyphenLine text).length := by
  simp only [hyphenLine, List.length_cons]
  omega

theorem underlineLevel?_hyphenLine {text : List Char} (h : BreaksRule text) :
    underlineLevel? (hyphenLine text) = none := by
  have double : runLength '=' (hyphenLine text) = 0 := runLength_cons_ne (by decide) _
  have single : runLength '-' (hyphenLine text) = 1 := rfl
  have rest : onlySpaces (' ' :: text) = false := by
    rw [onlySpaces, List.all_cons, ← onlySpaces, onlySpaces_of_breaksRule h, Bool.and_false]
  simp only [underlineLevel?, double, single]
  simp [hyphenLine, rest]

theorem listMarker?_hyphenLine {text : List Char} (h : BreaksRule text) (interrupts : Bool) :
    listMarker? interrupts (hyphenLine text) = some (.bullet '-', 1) := by
  have rest : onlySpaces (' ' :: text) = false := by
    rw [onlySpaces, List.all_cons, ← onlySpaces, onlySpaces_of_breaksRule h, Bool.and_false]
  simp [listMarker?, hyphenLine, rest, isAsciiSpace, isSpaceOrTab]

theorem itemContent_hyphenLine {c : Char} {rest : List Char} (visible : isSpaceOrTab c = false)
    (column : Nat) : itemContent ⟨hyphenLine (c :: rest), column, false⟩ 1 =
      (⟨c :: rest, column + 2, false⟩, 2) := by
  have skipIndent : Cursor.skipIndent ⟨hyphenLine (c :: rest), column, false⟩ =
      ⟨hyphenLine (c :: rest), column, false⟩ := rfl
  have marked : Cursor.skipChars 1 ⟨hyphenLine (c :: rest), column, false⟩ =
      ⟨' ' :: c :: rest, column + 1, false⟩ := rfl
  have stop : skipBlanksUpTo 5 ⟨c :: rest, column + 2, false⟩ = ⟨c :: rest, column + 2, false⟩ := by
    simp only [skipBlanksUpTo, visible, Bool.false_eq_true, if_false]
  have spaced : skipBlanksUpTo 6 ⟨' ' :: c :: rest, column + 1, false⟩ =
      ⟨c :: rest, column + 2, false⟩ := stop
  have indent : Cursor.indent ⟨hyphenLine (c :: rest), column, false⟩ = 0 := indent_cons rfl
  have gap : column + 2 - (column + 1) = 1 := by omega
  simp only [itemContent, skipIndent, marked, spaced, indent, gap]
  rfl

section

variable {state : LineState} {block : OpenBlock} {outer : List OpenBlock} {line depth column : Nat}
  {text : List Char}

theorem openStep_hyphenLine (hc : state.chain = block :: outer)
    (ht : state.cur = ⟨hyphenLine text, column, false⟩) (hr : BreaksRule text)
    (hd : depth < maxListDepth) :
    openStep state line depth = .opened (openItem state line (.bullet '-') 1) := by
  have visible : isSpaceOrTab '-' = false := rfl
  have shallow : ¬ 4 ≤ 0 := by decide
  have level : headingLevel? (hyphenLine text) = none := by
    simp [headingLevel?, hyphenLine, runLength_cons_ne]
  have fence : openingFence? (hyphenLine text) = none := openingFence?_cons rfl
  have html : ∀ inParagraph, openingKind? inParagraph (hyphenLine text) = none :=
    openingKind?_cons rfl
  have noQuote : ((hyphenLine text).head? == some '>') = false := rfl
  have indent : Cursor.indent ⟨hyphenLine text, column, false⟩ = 0 := indent_cons rfl
  have here : Cursor.text ⟨hyphenLine text, column, false⟩ = hyphenLine text := text_cons rfl
  rw [openStep_cons hc, ht, indent, here]
  simp only [shallow, if_false, noQuote, Bool.false_eq_true, level, fence, html,
    underlineLevel?_hyphenLine hr, ite_self, isRule_hyphenLine hr, listMarker?_hyphenLine hr, hd,
    decide_true]

variable {pending base : List OpenBlock}

theorem openChild_item (first : Nat) (items : List Block) :
    openChild line (.item 2) (openBullets first items :: base) =
      openBullet line [] :: openBullets first items :: base := rfl

/-- A bullet of a list that is open goes on with the list. -/
theorem openItem_same {first start : Nat} {items closed : List Block} (visible : PlainText text)
    (settled : closeHeads (.onLine line) pending.length
      (pending.reverse ++ openBullets first items :: outer) = openBullets start closed :: base)
    (lazy : Bool) :
    openItem ⟨openBullets first items :: outer, pending, ⟨hyphenLine text, column, false⟩, lazy⟩
        line (.bullet '-') 1 =
      ⟨openBullet line [] :: openBullets start closed :: base, [], ⟨text, column + 2, false⟩,
        false⟩ := by
  obtain ⟨c, rest, rfl, hc⟩ := visible.visible
  have same : (openBullets first items :: outer).head?.any
      (OpenBlock.isListOf (.bullet '-')) = true := rfl
  rw [openItem_eq]
  simp only [same, if_true, itemContent_hyphenLine hc, LineState.opened, LineState.settled,
    settled, openChild_item]

theorem openItem_new (visible : PlainText text) (new : block.isListOf (.bullet '-') = false)
    (opened : openChild line (.list (.bullet '-')) (closeHeads (.onLine line) pending.length
      (pending.reverse ++ block :: outer)) = openBullets line [] :: base)
    (lazy : Bool) :
    openItem ⟨block :: outer, pending, ⟨hyphenLine text, column, false⟩, lazy⟩
        line (.bullet '-') 1 =
      ⟨openBullet line [] :: openBullets line [] :: base, [], ⟨text, column + 2, false⟩,
        false⟩ := by
  obtain ⟨c, rest, rfl, hc⟩ := visible.visible
  have list : LineState.opened
      ⟨block :: outer, pending, ⟨hyphenLine (c :: rest), column, false⟩, lazy⟩ line
      (.list (.bullet '-')) ⟨c :: rest, column + 2, false⟩ =
        ⟨openBullets line [] :: base, [], ⟨c :: rest, column + 2, false⟩, false⟩ := by
    simp only [LineState.opened, LineState.settled, opened]
  have other : (block :: outer).head?.any (OpenBlock.isListOf (.bullet '-')) = false := new
  rw [openItem_eq]
  simp only [other, Bool.false_eq_true, if_false, itemContent_hyphenLine hc, list]
  rfl

/-- The line of a bullet opens it and fills it with its text. -/
theorem settle_bullet (hv : block.kind.isVerbatim = false) (hp : PlainText text)
    (hr : BreaksRule text)
    (opened : ∀ lazy, openItem ⟨block :: outer, pending, ⟨hyphenLine text, column, false⟩, lazy⟩
      line (.bullet '-') 1 = ⟨openBullet line [] :: base, [], ⟨text, column + 2, false⟩, false⟩)
    {whole : List Char} (long : 2 ≤ whole.length) (mayBeLazy lazy : Bool) :
    Filled line base text (settle line whole mayBeLazy
      (.reached ⟨block :: outer, pending, ⟨hyphenLine text, column, false⟩, lazy⟩)) := by
  have step := @openStep_hyphenLine
    ⟨block :: outer, pending, ⟨hyphenLine text, column, false⟩, mayBeLazy⟩ block outer line 0 column
    text rfl rfl hr (by decide)
  obtain ⟨more, length⟩ := Nat.exists_eq_add_of_le' long
  rw [settle, openBlocks_opened rfl hv _ step, opened, length]
  exact filled_of_plain hp _ _ _ _

end

end Markdown
end DocModel

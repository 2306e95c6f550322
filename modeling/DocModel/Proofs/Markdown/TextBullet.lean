import DocModel.Proofs.Markdown.Bullets

/-!
# DocModel.Proofs.Markdown.TextBullet

A bullet with a text and no bullet nested in it. `TextBullet` says which blocks are open after its
line, whatever its text is.

* `TextBullet.close` finishes the bullet into its list;
* `TextBullet.outside` and `TextBullet.blank` are the lines that end it or leave it open.
-/

namespace DocModel
namespace Markdown

/-- Blocks none of which is a list. -/
def Plain (blocks : List Block) : Prop := ∀ block ∈ blocks, block.kind ≠ .list

theorem Plain.append {first second : List Block} (hf : Plain first) (hs : Plain second) :
    Plain (first ++ second) := by
  intro block hm
  cases List.mem_append.1 hm with
  | inl h => exact hf block h
  | inr h => exact hs block h

theorem Plain.reverse {blocks : List Block} (h : Plain blocks) : Plain blocks.reverse :=
  fun block hm => h block (List.mem_reverse.1 hm)

theorem plain_finish {block : OpenBlock} (h : block.kind.isLeaf = true) (last : Nat) :
    Plain (block.finish last).toList := by
  obtain ⟨kind, first, lines, children⟩ := block
  intro node hm
  rw [Option.mem_toList] at hm
  cases kind with
  | paragraph noTable =>
    simp only [OpenBlock.finish] at hm
    split at hm
    · cases hm
    · cases hm
      intro h
      cases h
  | fenced mark length indent =>
    simp only [OpenBlock.finish] at hm
    cases hl : lines.reverse with
    | nil =>
      rw [hl] at hm
      cases hm
      intro h
      cases h
    | cons info lines =>
      rw [hl] at hm
      cases hm
      intro h
      cases h
  | heading | indented | html | rule =>
    cases hm
    intro h
    cases h
  | _ => cases h

/-- The open blocks of a bullet without nested bullets, on a line. -/
inductive TextBullet (line : Nat) (outer : List OpenBlock) : List OpenBlock → Prop where
  /-- Its text is a block that is open. -/
  | leaf (block : OpenBlock) {blocks : List Block} : block.kind.isLeaf = true →
      Plain blocks → TextBullet line outer (block :: openBullet line blocks :: outer)
  | done {blocks : List Block} : Plain blocks →
      TextBullet line outer (openBullet line blocks :: outer)

section

variable {line : Nat} {outer chain : List OpenBlock} {text : List Char}

theorem TextBullet.of_filled (h : Filled line outer text chain) : TextBullet line outer chain := by
  cases h with
  | leaf block leaf _ => exact .leaf block leaf fun _ hm => by cases hm
  | html node other _ =>
    refine .done fun block hm => ?_
    rw [List.mem_singleton.1 hm]
    exact other

theorem TextBullet.close {block : OpenBlock} (h : TextBullet line (block :: outer) chain)
    (closing : Closing) : ∃ last blocks, Plain blocks ∧
      closeHeads closing (chain.length - (outer.length + 1)) chain =
        { block with children := .node .item line last blocks :: block.children } :: outer := by
  cases h with
  | @leaf leaf blocks hl hp =>
    have two : (leaf :: openBullet line blocks :: block :: outer).length - (outer.length + 1) =
        2 := by
      simp only [List.length_cons]
      omega
    rw [two]
    exact ⟨_, _, ((plain_finish hl _).append hp).reverse, rfl⟩
  | @done blocks hp =>
    have one : (openBullet line blocks :: block :: outer).length - (outer.length + 1) = 1 := by
      simp only [List.length_cons]
      omega
    rw [one]
    exact ⟨_, _, hp.reverse, rfl⟩

theorem continues_bullet_outside {cur : Cursor} (hi : cur.indent < 2) (hb : cur.isBlank = false)
    (first : Nat) (blocks : List Block) (hasChild : Bool) :
    (openBullet first blocks).continues hasChild cur = .outside := by
  have shallow : ¬ 2 ≤ cur.indent := by omega
  simp [OpenBlock.continues, openBullet, shallow, hb]

/-- An empty line belongs to a bullet that has something in it. -/
theorem continues_bullet_blank (first : Nat) (blocks : List Block) :
    (openBullet first blocks).continues true { rest := [] } = .within { rest := [] } := rfl

/-- A line that is not indented does not belong to a bullet. -/
theorem TextBullet.outside (h : TextBullet line outer chain) {cur : Cursor} (hi : cur.indent < 2)
    (hb : cur.isBlank = false) : ∃ pending, chain = pending.reverse ++ outer ∧
      ∀ matched, descend matched pending cur = .reached ⟨matched, pending, cur, false⟩ := by
  cases h with
  | @leaf leaf blocks hl hp =>
    refine ⟨[openBullet line blocks, leaf], rfl, fun matched => ?_⟩
    rw [descend, continues_bullet_outside hi hb]
  | @done blocks hp =>
    refine ⟨[openBullet line blocks], rfl, fun matched => ?_⟩
    rw [descend, continues_bullet_outside hi hb]

/-- Whether the innermost block has text or blocks of its own. -/
def isStarted (chain : List OpenBlock) : Bool :=
  chain.head?.any fun block => block.kind.isLeaf || !block.children.isEmpty

theorem isStarted_of_filled (h : Filled line outer text chain) : isStarted chain = true := by
  cases h with
  | leaf block leaf _ => simp [isStarted, leaf]
  | html node other _ => simp [isStarted, openBullet]

theorem settle_leaf_outside {leaf : OpenBlock} {blocks : List Block}
    (hl : leaf.kind.isLeaf = true) (hp : Plain blocks)
    (outside : ∀ hasChild, leaf.continues hasChild { rest := [] } = .outside) (n : Nat)
    (lazy : Bool) :
    TextBullet line outer (settle n [] lazy
      (descend (openBullet line blocks :: outer) [leaf] { rest := [] })) := by
  have reached : descend (openBullet line blocks :: outer) [leaf] { rest := [] } =
      .reached ⟨openBullet line blocks :: outer, [leaf], { rest := [] }, false⟩ := by
    rw [descend, outside]
  have blank : Cursor.isBlank { rest := [] } = true := rfl
  rw [reached, settle, openBlocks_blank _ rfl, finishLine]
  simp only [List.reverse_cons, List.reverse_nil, List.nil_append, blank, Bool.not_true,
    Bool.and_false, Bool.false_eq_true, if_false]
  exact .done ((plain_finish hl _).append hp)

/-- An empty line goes on with a leaf block of a bullet. -/
theorem settle_leaf_within {leaf : OpenBlock} {blocks : List Block}
    (hl : leaf.kind.isLeaf = true) (hp : Plain blocks)
    (within : ∀ hasChild, leaf.continues hasChild { rest := [] } = .within { rest := [] }) (n : Nat)
    (lazy : Bool) :
    TextBullet line outer (settle n [] lazy
      (descend (openBullet line blocks :: outer) [leaf] { rest := [] })) := by
  have reached : descend (openBullet line blocks :: outer) [leaf] { rest := [] } =
      .reached ⟨leaf :: openBullet line blocks :: outer, [], { rest := [] }, false⟩ := by
    rw [descend, within]
    rfl
  rw [reached, settle, openBlocks_blank _ rfl, finishLine]
  obtain ⟨kind, first, lines, children⟩ := leaf
  cases kind with
  | html kind => cases kind <;> exact .leaf _ rfl hp
  | paragraph | heading | fenced | indented | rule => exact .leaf _ rfl hp
  | _ => cases hl

/-- An empty line leaves a bullet with text in a leaf block open. -/
theorem settle_leaf {leaf : OpenBlock} {blocks : List Block}
    (hl : leaf.kind.isLeaf = true) (hp : Plain blocks) (n : Nat) (lazy : Bool) :
    TextBullet line outer (settle n [] lazy
      (descend (openBullet line blocks :: outer) [leaf] { rest := [] })) := by
  obtain ⟨kind, first, lines, children⟩ := leaf
  cases kind with
  | paragraph | heading => exact settle_leaf_outside hl hp (fun _ => rfl) n lazy
  | indented | rule => exact settle_leaf_within hl hp (fun _ => rfl) n lazy
  | fenced mark length indent =>
    refine settle_leaf_within hl hp (fun _ => ?_) n lazy
    have open_ : closesFence mark length [] = false := rfl
    have stay : skipBlanksUpTo indent { rest := [] } = { rest := [] } := by
      cases indent <;> rfl
    simp only [OpenBlock.continues, Cursor.text, List.dropWhile_nil, open_, Bool.and_false,
      Bool.false_eq_true, if_false, stay]
  | html kind =>
    cases kind with
    | block | tag => exact settle_leaf_outside hl hp (fun _ => rfl) n lazy
    | _ => exact settle_leaf_within hl hp (fun _ => rfl) n lazy
  | _ => cases hl

theorem TextBullet.blank (h : TextBullet line outer chain) (started : isStarted chain = true)
    (n : Nat) (lazy : Bool) : ∃ pending, pending ≠ [] ∧ chain = pending.reverse ++ outer ∧
      TextBullet line outer (settle n [] lazy (descend outer pending { rest := [] })) := by
  cases h with
  | @leaf leaf blocks hl hp =>
    refine ⟨[openBullet line blocks, leaf], List.cons_ne_nil _ _, rfl, ?_⟩
    rw [descend, List.isEmpty_cons, Bool.not_false, Bool.or_true, continues_bullet_blank]
    exact settle_leaf hl hp n lazy
  | @done blocks hp =>
    refine ⟨[openBullet line blocks], List.cons_ne_nil _ _, rfl, ?_⟩
    have some : (openBullet line blocks).children.isEmpty = false := by
      cases blocks with
      | nil => cases started
      | cons block more => rfl
    have reached : descend outer [openBullet line blocks] { rest := [] } =
        .reached ⟨openBullet line blocks :: outer, [], { rest := [] }, false⟩ := by
      rw [descend, some, Bool.not_false, Bool.true_or, continues_bullet_blank]
      rfl
    rw [reached, settle, openBlocks_blank _ rfl]
    exact .done hp

theorem TextBullet.length_le (h : TextBullet line outer chain) :
    outer.length + 1 ≤ chain.length := by
  cases h <;> simp only [List.length_cons] <;> omega

end

end Markdown
end DocModel
